import Mathlib.Data.String.Basic
import Pasion.Relational.Table
import Pasion.Text.FormUrlencoded

/-! Where an authorization response is sent: the redirect URI with the response parameters in its
query, in its fragment or in a form. -/
namespace Pasion.Callback

open Relational

abbrev Pairs := List (String × String)

/-- A URL as far as this module looks into it: what comes before the query, and the rest. -/
structure Url where
  base : String
  (query fragment : Option String)

structure FormPostContext where
  redirectUri : Url
  state : Option String
  params : Option Pairs

/-- Decoding, the escapes of queries and fragments, the order of a hash map, the form. -/
structure Libraries where
  lossy : List UInt8 → String
  (escapeQuery escapeFragment : String → String)
  order : Table String String → Pairs
  renderFormPost : FormPostContext → Option String
  escapeQuery_safe : ∀ s, (∀ b ∈ Str.bytes s, FormUrlencoded.isSafe b) → escapeQuery s = s
  escapeFragment_safe : ∀ s, (∀ b ∈ Str.bytes s, FormUrlencoded.isSafe b) → escapeFragment s = s
  order_perm : ∀ t, (order t).Perm t.rows

namespace Url

def setQuery (lib : Libraries) (url : Url) (query : Option String) : Url :=
  { url with query := query.map lib.escapeQuery }

def setFragment (lib : Libraries) (url : Url) (fragment : Option String) : Url :=
  { url with fragment := fragment.map lib.escapeFragment }

def queryPairs (lib : Libraries) (url : Url) : Pairs :=
  (url.query.map (FormUrlencoded.parse lib.lossy)).getD []

end Url

inductive ResponseMode where
  | query
  | fragment
  | formPost
  | unknown (value : String)
  deriving DecidableEq

inductive CallbackDestinationMode where
  | query (existingParams : Table String String)
  | fragment
  | formPost

structure CallbackDestination where
  mode : CallbackDestinationMode
  safeRedirectUri : Url
  state : Option String

-- the source has one more, for a query that is no form: every text is one
inductive IntoCallbackDestinationError where
  | redirectUriFragmentNotAllowed
  | unsupportedResponseMode

inductive CallbackDestinationError where
  | formPostRender
  | paramsSerialization

structure RedirectInfo where
  url : Url
  responseMode : String

inductive Response where
  | redirectOther (url : Url)
  | html (context : FormPostContext) (text : String)

def Response.target : Response → Url
  | redirectOther url => url
  | html context _ => context.redirectUri

namespace CallbackDestination

/-- A map of the pairs; of several values of a name, the last one stays. -/
def existingParams (pairs : Pairs) : Table String String :=
  pairs.foldl (fun t p => t.insert p.1 p.2) .empty

def tryNew (lib : Libraries) (mode : ResponseMode) (redirectUri : Url) (state : Option String) :
    Except IntoCallbackDestinationError CallbackDestination :=
  if redirectUri.fragment.isSome then .error .redirectUriFragmentNotAllowed
  else match mode with
    | .query => .ok ⟨.query (existingParams (redirectUri.queryPairs lib)),
        redirectUri.setQuery lib none, state⟩
    | .fragment => .ok ⟨.fragment, redirectUri, state⟩
    | .formPost => .ok ⟨.formPost, redirectUri, state⟩
    | .unknown _ => .error .unsupportedResponseMode

def added (state : Option String) (params : Pairs) : Pairs :=
  state.toList.map ("state", ·) ++ params

/-- The text of all parameters, if the response parameters can be written as pairs. -/
def newQs (existing : Pairs) (state : Option String) (params : Option Pairs) :
    Except CallbackDestinationError String :=
  match params with
  | none => .error .paramsSerialization
  | some params => .ok (FormUrlencoded.serialize (existing ++ added state params))

def redirectUrl (lib : Libraries) (dest : CallbackDestination) (params : Option Pairs) :
    Except CallbackDestinationError RedirectInfo :=
  match dest.mode with
  | .query existing => (newQs (lib.order existing) dest.state params).map
      (fun qs => ⟨dest.safeRedirectUri.setQuery lib (some qs), "query"⟩)
  | .fragment => (newQs [] dest.state params).map
      (fun qs => ⟨dest.safeRedirectUri.setFragment lib (some qs), "fragment"⟩)
  | .formPost => (newQs [] dest.state params).map
      (fun qs => ⟨dest.safeRedirectUri.setQuery lib (some qs), "form_post"⟩)

def go (lib : Libraries) (dest : CallbackDestination) (params : Option Pairs) :
    Except CallbackDestinationError Response :=
  match dest.mode with
  | .query existing => (newQs (lib.order existing) dest.state params).map
      (fun qs => .redirectOther (dest.safeRedirectUri.setQuery lib (some qs)))
  | .fragment => (newQs [] dest.state params).map
      (fun qs => .redirectOther (dest.safeRedirectUri.setFragment lib (some qs)))
  | .formPost =>
    let context := ⟨dest.safeRedirectUri, dest.state, params⟩
    (lib.renderFormPost context).elim (.error .formPostRender) (fun text => .ok (.html context text))

end CallbackDestination

def valuesOf (name : String) (pairs : Pairs) : List String :=
  pairs.filterMap (fun p => if p.1 = name then some p.2 else none)

section Values

variable {name : String} {pairs : Pairs}

theorem valuesOf_cons (p : String × String) (pairs : Pairs) :
    valuesOf name (p :: pairs) = if p.1 = name then p.2 :: valuesOf name pairs
      else valuesOf name pairs := by
  by_cases h : p.1 = name <;> simp [valuesOf, h]

theorem valuesOf_eq_nil (h : name ∉ pairs.map Prod.fst) : valuesOf name pairs = [] := by
  refine List.filterMap_eq_nil_iff.mpr fun p hp => if_neg ?_
  rintro rfl
  exact h (List.mem_map_of_mem hp)

/-- No name occurs twice exactly when no name has two values. -/
theorem nodup_names_iff : (pairs.map Prod.fst).Nodup ↔ ∀ name, (valuesOf name pairs).length ≤ 1 := by
  induction pairs with
  | nil => simp [valuesOf]
  | cons p rest ih =>
    rw [List.map_cons, List.nodup_cons, ih]
    constructor
    · rintro ⟨hp, hrest⟩ name
      rw [valuesOf_cons]
      split_ifs with hname
      · rw [valuesOf_eq_nil (hname ▸ hp)]
        simp
      · exact hrest name
    · intro h
      constructor
      · intro hmem
        obtain ⟨q, hq, hname⟩ := List.mem_map.mp hmem
        have hlen := h p.1
        have hvalue : q.2 ∈ valuesOf p.1 rest := List.mem_filterMap.mpr ⟨q, hq, if_pos hname⟩
        have hpos := List.length_pos_of_mem hvalue
        rw [valuesOf_cons, if_pos rfl, List.length_cons] at hlen
        omega
      · intro name
        have hlen := h name
        rw [valuesOf_cons] at hlen
        split_ifs at hlen
        · rw [List.length_cons] at hlen
          omega
        · exact hlen

theorem valuesOf_eq_lookupRow (h : (pairs.map Prod.fst).Nodup) :
    valuesOf name pairs = (Table.lookupRow name pairs).toList := by
  induction pairs with
  | nil => rfl
  | cons p rest ih =>
    rw [List.map_cons, List.nodup_cons] at h
    obtain ⟨key, value⟩ := p
    rw [valuesOf_cons, Table.lookupRow]
    by_cases hkey : key = name
    · rw [if_pos hkey, if_pos hkey.symm, valuesOf_eq_nil (hkey ▸ h.1)]
      rfl
    · rw [if_neg hkey, if_neg (Ne.symm hkey), ih h.2]

theorem valuesOf_order (lib : Libraries) (t : Table String String) :
    valuesOf name (lib.order t) = (t.get? name).toList := by
  have hrows : valuesOf name t.rows = (t.get? name).toList := by
    apply valuesOf_eq_lookupRow
    exact List.pairwise_map.mpr (t.sorted.imp fun hlt => hlt.ne)
  have hperm : (valuesOf name (lib.order t)).Perm (t.get? name).toList := by
    rw [← hrows]
    exact (lib.order_perm t).filterMap _
  cases hget : t.get? name with
  | none =>
    rw [hget] at hperm
    exact List.perm_nil.mp hperm
  | some value =>
    rw [hget] at hperm
    exact List.perm_singleton.mp hperm

theorem get?_foldl_insert (t : Table String String) :
    (pairs.foldl (fun t p => t.insert p.1 p.2) t).get? name =
      ((valuesOf name pairs).getLast?).or (t.get? name) := by
  induction pairs generalizing t with
  | nil => rfl
  | cons p rest ih =>
    rw [List.foldl_cons, ih, Table.get?_insert, valuesOf_cons]
    by_cases hname : p.1 = name
    · rw [if_pos hname, if_pos hname.symm, List.getLast?_cons]
      cases (valuesOf name rest).getLast? <;> rfl
    · rw [if_neg hname, if_neg (Ne.symm hname)]

theorem valuesOf_existingParams (lib : Libraries) :
    valuesOf name (lib.order (CallbackDestination.existingParams pairs)) =
      ((valuesOf name pairs).getLast?).toList := by
  rw [valuesOf_order, CallbackDestination.existingParams, get?_foldl_insert, Table.get?_empty,
    Option.or_none]

/-- The map keeps all values exactly when no name occurs twice. -/
theorem valuesOf_existingParams_iff (lib : Libraries) :
    (∀ name, valuesOf name (lib.order (CallbackDestination.existingParams pairs)) =
      valuesOf name pairs) ↔ (pairs.map Prod.fst).Nodup := by
  rw [nodup_names_iff]
  refine forall_congr' fun name => ?_
  rw [valuesOf_existingParams]
  match valuesOf name pairs with
  | [] => simp
  | [value] => simp
  | first :: second :: rest =>
    refine iff_of_false ?_ (by simp)
    intro h
    have hlen := congrArg List.length h
    have hle : ((first :: second :: rest).getLast?).toList.length ≤ 1 := Option.length_toList_le
    rw [hlen] at hle
    simp at hle

end Values

def ResponseMode.inQuery (mode : ResponseMode) (params : Pairs) : Pairs :=
  if mode = .query then params else []

/-- The query keeps the pairs of the redirect URI, in order and before the response. -/
def KeepsQuery (lib : Libraries) (uri : Url) (inQuery : Pairs) (target : Url) : Prop :=
  target.base = uri.base ∧ ∃ own, target.queryPairs lib = own ++ inQuery ∧
    ∀ name, valuesOf name own = valuesOf name (uri.queryPairs lib)

/-- Both ways to answer keep the query, and go to one URL apart from the response parameters. -/
structure SameTarget (lib : Libraries) (mode : ResponseMode) (uri : Url) (params : Pairs)
    (info : RedirectInfo) (res : Response) : Prop where
  redirectUrl : KeepsQuery lib uri (mode.inQuery params) info.url
  go : KeepsQuery lib uri (mode.inQuery params) res.target
  query : mode ≠ .query → info.url.queryPairs lib = res.target.queryPairs lib
  fragment : mode ≠ .fragment → info.url.fragment = res.target.fragment

section Targets

variable {lib : Libraries} {uri : Url} {pairs : Pairs}

theorem queryPairs_setQuery :
    (uri.setQuery lib (some (FormUrlencoded.serialize pairs))).queryPairs lib = pairs := by
  have hsafe : lib.escapeQuery (FormUrlencoded.serialize pairs) = FormUrlencoded.serialize pairs :=
    lib.escapeQuery_safe _ fun _ => FormUrlencoded.isSafe_of_mem_serialize
  unfold Url.queryPairs Url.setQuery
  rw [Option.map_some, Option.map_some, Option.getD_some, hsafe, FormUrlencoded.parse_serialize]

theorem keepsQuery_setQuery {url : Url} {own inQuery : Pairs} (hbase : url.base = uri.base) :
    KeepsQuery lib uri inQuery
      (url.setQuery lib (some (FormUrlencoded.serialize (own ++ inQuery)))) ↔
        ∀ name, valuesOf name own = valuesOf name (uri.queryPairs lib) := by
  unfold KeepsQuery
  rw [queryPairs_setQuery]
  constructor
  · rintro ⟨-, own', howns, hvalues⟩
    rwa [List.append_cancel_right howns]
  · intro hvalues
    exact ⟨hbase, own, rfl, hvalues⟩

theorem keepsQuery_of_query {target : Url} (hbase : target.base = uri.base)
    (hquery : target.query = uri.query) : KeepsQuery lib uri [] target := by
  refine ⟨hbase, uri.queryPairs lib, ?_, fun _ => rfl⟩
  rw [List.append_nil, Url.queryPairs, hquery]
  rfl

end Targets

/-- No name is repeated in the query mode; the response is there already in the form mode. -/
def Lossless (lib : Libraries) (uri : Url) (params : Pairs) : ResponseMode → Prop
  | .query => ((uri.queryPairs lib).map Prod.fst).Nodup
  | .formPost => uri.queryPairs lib = params
  | _ => True

section Modes

open CallbackDestination

variable {lib : Libraries} {uri : Url} {state : Option String} {params : Pairs}
  {dest : CallbackDestination} {info : RedirectInfo} {res : Response}

theorem sameTarget_query (hnew : tryNew lib .query uri state = .ok dest)
    (hredirect : dest.redirectUrl lib (some params) = .ok info)
    (hgo : dest.go lib (some params) = .ok res) :
    SameTarget lib .query uri (added state params) info res ↔
      ((uri.queryPairs lib).map Prod.fst).Nodup := by
  unfold tryNew at hnew
  split_ifs at hnew
  cases hnew
  cases hredirect
  cases hgo
  let own := lib.order (existingParams (uri.queryPairs lib))
  have hkeeps : KeepsQuery lib uri (added state params) ((uri.setQuery lib none).setQuery lib
      (some (FormUrlencoded.serialize (own ++ added state params)))) ↔
        ((uri.queryPairs lib).map Prod.fst).Nodup :=
    (keepsQuery_setQuery rfl).trans (valuesOf_existingParams_iff lib)
  constructor
  · intro h
    exact hkeeps.mp h.redirectUrl
  · intro h
    exact ⟨hkeeps.mpr h, hkeeps.mpr h, fun hmode => absurd rfl hmode, fun _ => rfl⟩

theorem sameTarget_fragment (hnew : tryNew lib .fragment uri state = .ok dest)
    (hredirect : dest.redirectUrl lib (some params) = .ok info)
    (hgo : dest.go lib (some params) = .ok res) :
    SameTarget lib .fragment uri (added state params) info res := by
  unfold tryNew at hnew
  split_ifs at hnew
  cases hnew
  cases hredirect
  cases hgo
  exact ⟨keepsQuery_of_query rfl rfl, keepsQuery_of_query rfl rfl, fun _ => rfl, fun _ => rfl⟩

/-- The form goes to the redirect URI, and the URL has the response parameters as its query. -/
theorem sameTarget_formPost (hnew : tryNew lib .formPost uri state = .ok dest)
    (hredirect : dest.redirectUrl lib (some params) = .ok info)
    (hgo : dest.go lib (some params) = .ok res) :
    SameTarget lib .formPost uri (added state params) info res ↔
      uri.queryPairs lib = added state params := by
  unfold tryNew at hnew
  split_ifs at hnew
  cases hnew
  cases hredirect
  have htarget : res.target = uri := by
    unfold go at hgo
    dsimp only at hgo
    cases htext : lib.renderFormPost ⟨uri, state, some params⟩ with
    | none =>
      rw [htext] at hgo
      cases hgo
    | some text =>
      rw [htext] at hgo
      cases hgo
      rfl
  have hquery : (uri.setQuery lib (some (FormUrlencoded.serialize ([] ++ added state params)))
      ).queryPairs lib = added state params := queryPairs_setQuery
  constructor
  · intro h
    have hsame := h.query (by decide)
    rw [htarget, hquery] at hsame
    exact hsame.symm
  · intro h
    refine ⟨⟨rfl, added state params, ?_, ?_⟩, ?_, ?_, ?_⟩
    · rw [hquery]
      exact (List.append_nil _).symm
    · intro name
      rw [h]
    · rw [htarget]
      exact keepsQuery_of_query rfl rfl
    · intro _
      rw [htarget, hquery, h]
    · intro _
      rw [htarget]
      rfl

theorem sameTarget_iff_lossless (mode : ResponseMode)
    (hnew : tryNew lib mode uri state = .ok dest)
    (hredirect : dest.redirectUrl lib (some params) = .ok info)
    (hgo : dest.go lib (some params) = .ok res) :
    SameTarget lib mode uri (added state params) info res ↔
      Lossless lib uri (added state params) mode := by
  cases mode with
  | query => exact sameTarget_query hnew hredirect hgo
  | fragment => exact iff_of_true (sameTarget_fragment hnew hredirect hgo) trivial
  | formPost => exact sameTarget_formPost hnew hredirect hgo
  | unknown value =>
    unfold tryNew at hnew
    split_ifs at hnew

def exampleLibraries : Libraries where
  lossy _ := "\uFFFD"
  escapeQuery := id
  escapeFragment := id
  order t := t.rows
  renderFormPost _ := some "<form>"
  escapeQuery_safe _ _ := rfl
  escapeFragment_safe _ _ := rfl
  order_perm _ := .refl _

def exampleUri (query : String) : Url := ⟨"https://postbox.example/callback", some query, none⟩

theorem queryPairs_exampleUri {query : String} {pairs : Pairs}
    (h : query = FormUrlencoded.serialize pairs) :
    (exampleUri query).queryPairs exampleLibraries = pairs := by
  rw [h]
  exact FormUrlencoded.parse_serialize _ pairs

theorem single_value_kept : ∃ dest info res,
    tryNew exampleLibraries .query (exampleUri "tenant=1") (some "s") = .ok dest ∧
    dest.redirectUrl exampleLibraries (some [("code", "c")]) = .ok info ∧
    dest.go exampleLibraries (some [("code", "c")]) = .ok res ∧
    SameTarget exampleLibraries .query (exampleUri "tenant=1")
      (added (some "s") [("code", "c")]) info res := by
  have hpairs : (exampleUri "tenant=1").queryPairs exampleLibraries = [("tenant", "1")] :=
    queryPairs_exampleUri (by decide +kernel)
  refine ⟨_, _, _, rfl, rfl, rfl, (sameTarget_iff_lossless .query rfl rfl rfl).mpr ?_⟩
  show (((exampleUri "tenant=1").queryPairs exampleLibraries).map Prod.fst).Nodup
  rw [hpairs]
  decide

/-- Of two values of a name one is dropped, and the URL of a form loses the query. -/
theorem query_not_kept : (∃ dest info res,
      tryNew exampleLibraries .query (exampleUri "a=1&a=2") none = .ok dest ∧
      dest.redirectUrl exampleLibraries (some [("code", "c")]) = .ok info ∧
      dest.go exampleLibraries (some [("code", "c")]) = .ok res ∧
      ¬ SameTarget exampleLibraries .query (exampleUri "a=1&a=2") (added none [("code", "c")])
        info res) ∧
    ∃ dest info res,
      tryNew exampleLibraries .formPost (exampleUri "tenant=1") none = .ok dest ∧
      dest.redirectUrl exampleLibraries (some [("code", "c")]) = .ok info ∧
      dest.go exampleLibraries (some [("code", "c")]) = .ok res ∧
      ¬ SameTarget exampleLibraries .formPost (exampleUri "tenant=1") (added none [("code", "c")])
        info res := by
  constructor
  · have hpairs : (exampleUri "a=1&a=2").queryPairs exampleLibraries = [("a", "1"), ("a", "2")] :=
      queryPairs_exampleUri (by decide +kernel)
    refine ⟨_, _, _, rfl, rfl, rfl, fun h => ?_⟩
    have hnodup := (sameTarget_query rfl rfl rfl).mp h
    rw [hpairs] at hnodup
    exact absurd hnodup (by decide)
  · have hpairs : (exampleUri "tenant=1").queryPairs exampleLibraries = [("tenant", "1")] :=
      queryPairs_exampleUri (by decide +kernel)
    refine ⟨_, _, _, rfl, rfl, rfl, fun h => ?_⟩
    have hsame := (sameTarget_formPost rfl rfl rfl).mp h
    rw [hpairs] at hsame
    exact absurd hsame (by decide)

end Modes

end Pasion.Callback
