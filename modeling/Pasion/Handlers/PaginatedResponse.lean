import Pasion.Data.Pagination

/-! The links between the pages of an administration response, and walks along them. -/
namespace Pasion

namespace Pagination

def last (count : ℕ) : Pagination := ⟨none, none, count, .backward⟩

end Pagination

def urlWithPagination (base : String) (pagination : Pagination) : String :=
  let path := base.toList.takeWhile (· ≠ '?')
  let query := (base.toList.dropWhile (· ≠ '?')).tail
  let before := pagination.before.elim "" (fun before => "&page[before]=" ++ Ulid.toString before)
  let after := pagination.after.elim "" (fun after => "&page[after]=" ++ Ulid.toString after)
  let count := match pagination.direction with
    | .forward => "&page[first]=" ++ toString pagination.count
    | .backward => "&page[last]=" ++ toString pagination.count
  let query := query ++ before.toList ++ after.toList ++ count.toList
  .ofList (path ++ '?' :: query.dropWhile (· = '&'))

/-- A link, with the page that a request for it asks for. -/
structure Link where
  url : String
  pagination : Pagination

namespace PaginatedResponse

variable {α : Type}

def link (base : String) (pagination : Pagination) : Link :=
  ⟨urlWithPagination base pagination, pagination⟩

section Pages

variable {n : ℕ} {v rows : List (Ulid × α)} {p : Pagination}

end Pages

section Walks

variable {n : ℕ} {follow : PaginationLinks → Option Link} {base : String}
  {rows v : List (Ulid × α)} {view : List (Ulid × α) → Page α} {pages : List (Page α)}

end Walks

section Orders

variable {n : ℕ} {R : Ulid × α → Ulid × α → Prop} {l a b u w : List (Ulid × α)} {x : Ulid × α}

end Orders

section Main

variable {n : ℕ} {base : String} {rows : List (Ulid × α)}

end Main

end PaginatedResponse
end Pasion
