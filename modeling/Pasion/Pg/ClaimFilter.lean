import Pasion.Pg.BrowserSession
import Pasion.Text.SqlLexer

/-! The filters on the claims of upstream sessions, which are spliced into the query as text. -/
namespace Pasion.UpstreamOAuthSessionRepository

def claimColumn (claim : String) : String := "id_token_claims->>'" ++ claim ++ "' = '"

def claimFilter (claim value : String) : String :=
  claimColumn claim ++ String.ofList (Sql.escape value.toList) ++ "'"

/-- The conditions that `list` and `count` add for the claims. -/
def claimFilters (f : UpstreamOAuthSessionFilter) : List String :=
  (f.subClaim.map (claimFilter "sub")).toList ++ (f.sidClaim.map (claimFilter "sid")).toList

/-- A claim of the ID token compared with a literal. -/
def comparison (claim value : String) : List Sql.Token :=
  [.ident "id_token_claims".toList, .op "->>".toList, .str claim.toList, .op "=".toList,
    .str value.toList]

theorem lex_claimFilter {claim value : String}
    (hclaim : Sql.run .start (claimColumn claim).toList =
      some ((comparison claim value).take 4, .str []))
    (hnul : '\x00' ∉ value.toList) :
    Sql.lex (claimFilter claim value) = some (comparison claim value) := by
  have hvalue : (String.ofList (Sql.escape value.toList)).toList = Sql.escape value.toList :=
    String.toList_ofList
  have hquote : "'".toList = ['\''] := by decide
  have htext : (claimFilter claim value).toList =
      (claimColumn claim).toList ++ (Sql.escape value.toList ++ ['\'']) := by
    rw [claimFilter, String.toList_append, String.toList_append, hvalue, hquote, List.append_assoc]
  rw [Sql.lex, htext, Sql.run_append hclaim (Sql.run_escape hnul [])]
  rfl

/-- Each condition compares with one literal, whose value is the claim whatever it says. -/
theorem claim_filters_lex (f : UpstreamOAuthSessionFilter)
    (hsub : ∀ s ∈ f.subClaim, '\x00' ∉ s.toList) (hsid : ∀ s ∈ f.sidClaim, '\x00' ∉ s.toList) :
    (claimFilters f).map Sql.lex =
      (f.subClaim.map (fun s => some (comparison "sub" s))).toList ++
        (f.sidClaim.map (fun s => some (comparison "sid" s))).toList := by
  have hmap {claim : Option String} {name : String} (hnul : ∀ s ∈ claim, '\x00' ∉ s.toList)
      (hname : ∀ s, Sql.run .start (claimColumn name).toList =
        some ((comparison name s).take 4, .str [])) :
      (claim.map (claimFilter name)).toList.map Sql.lex =
        (claim.map (fun s => some (comparison name s))).toList := by
    cases claim with
    | none => rfl
    | some s => exact congrArg (fun x => [x]) (lex_claimFilter (hname s) (hnul s rfl))
  rw [claimFilters, List.map_append, hmap hsub fun _ => rfl, hmap hsid fun _ => rfl]

/-- Quotes and backslashes stay within the literal. -/
theorem quoted_sub_lexes : (claimFilters ⟨none, some "a' OR '1'='1\\", none⟩).map Sql.lex =
    [some (comparison "sub" "a' OR '1'='1\\")] :=
  claim_filters_lex ⟨none, some "a' OR '1'='1\\", none⟩ (by decide) (by decide)

end Pasion.UpstreamOAuthSessionRepository
