import Pasion.Text.Encoding

/-! Unpadded base64url: the encoder, and the decoder that takes canonical texts only. -/
namespace Encoding

def digit (n : ℕ) : Char :=
  if n < 26 then .ofNat (n + 65)
  else if n < 52 then .ofNat (n + 71)
  else if n < 62 then .ofNat (n - 4)
  else if n = 62 then '-'
  else '_'

/-- Three bytes make four digits; one or two left over make two or three. -/
def sextets : List UInt8 → List ℕ
  | [] => []
  | [a] => [a.toNat / 4, a.toNat % 4 * 16]
  | [a, b] => [a.toNat / 4, a.toNat % 4 * 16 + b.toNat / 16, b.toNat % 16 * 4]
  | a :: b :: c :: rest =>
    [a.toNat / 4, a.toNat % 4 * 16 + b.toNat / 16, b.toNat % 16 * 4 + c.toNat / 64, c.toNat % 64] ++
      sextets rest

def base64UrlEncode (bytes : List UInt8) : String := .ofList ((sextets bytes).map digit)

/-- Bits that no byte takes must be zero, so that each text stands for itself alone. -/
def base64UrlDecode (s : String) : Option (List UInt8) := do
  let bytes ← base64UrlUnpadded s
  let bytes := bytes.map UInt8.ofNat
  if base64UrlEncode bytes = s then some bytes else none

theorem sextet_digit {n : ℕ} (h : n < 64) : sextet (digit n) = some n := by
  have hall : ∀ i : Fin 64, sextet (digit i) = some i.val := by decide
  exact hall ⟨n, h⟩

theorem lt_of_mem_sextets (bytes : List UInt8) : ∀ n ∈ sextets bytes, n < 64 := by
  induction bytes using sextets.induct with
  | case1 => simp [sextets]
  | case2 a =>
    have ha := a.toNat_lt
    simp only [sextets, List.mem_cons, List.not_mem_nil, or_false, forall_eq_or_imp, forall_eq]
    omega
  | case3 a b =>
    have ha := a.toNat_lt
    have hb := b.toNat_lt
    simp only [sextets, List.mem_cons, List.not_mem_nil, or_false, forall_eq_or_imp, forall_eq]
    omega
  | case4 a b c rest ih =>
    have ha := a.toNat_lt
    have hb := b.toNat_lt
    have hc := c.toNat_lt
    simp only [sextets, List.cons_append, List.nil_append, List.mem_cons, forall_eq_or_imp]
    refine ⟨?_, ?_, ?_, ?_, ih⟩ <;> omega

theorem groups_sextets (bytes : List UInt8) :
    groups (sextets bytes) = some (bytes.map UInt8.toNat) := by
  induction bytes using sextets.induct with
  | case1 => rfl
  | case2 a =>
    have ha := a.toNat_lt
    simp only [sextets, groups, List.map_cons, List.map_nil, Option.some.injEq, List.cons.injEq,
      and_true]
    omega
  | case3 a b =>
    have ha := a.toNat_lt
    have hb := b.toNat_lt
    simp only [sextets, groups, List.map_cons, List.map_nil, Option.some.injEq, List.cons.injEq,
      and_true]
    omega
  | case4 a b c rest ih =>
    have ha := a.toNat_lt
    have hb := b.toNat_lt
    have hc := c.toNat_lt
    simp only [sextets, List.cons_append, List.nil_append, groups, ih, Option.map_some,
      List.map_cons, Option.some.injEq, List.cons.injEq, and_true]
    omega

theorem mapM_sextet_digit {ns : List ℕ} (h : ∀ n ∈ ns, n < 64) :
    (ns.map digit).mapM sextet = some ns := by
  induction ns with
  | nil => rfl
  | cons n rest ih =>
    have hn := sextet_digit (h n List.mem_cons_self)
    have hrest := ih fun m hm => h m (List.mem_cons_of_mem _ hm)
    rw [List.map_cons, List.mapM_cons, hn, hrest]
    rfl

/-- What was encoded is decoded again. -/
@[simp]
theorem base64UrlDecode_encode (bytes : List UInt8) :
    base64UrlDecode (base64UrlEncode bytes) = some bytes := by
  have hdigits : base64UrlUnpadded (base64UrlEncode bytes) = some (bytes.map UInt8.toNat) := by
    unfold base64UrlUnpadded base64UrlEncode
    rw [String.toList_ofList, mapM_sextet_digit (lt_of_mem_sextets bytes)]
    exact groups_sextets bytes
  have hbytes : (bytes.map UInt8.toNat).map UInt8.ofNat = bytes := by
    rw [List.map_map]
    conv_rhs => rw [← List.map_id bytes]
    exact List.map_congr_left fun b _ => UInt8.ofNat_toNat
  unfold base64UrlDecode
  rw [hdigits]
  simp [hbytes]

/-- The alphabet has no dot. -/
theorem dot_not_mem_base64UrlEncode (bytes : List UInt8) :
    '.' ∉ (base64UrlEncode bytes).toList := by
  unfold base64UrlEncode
  rw [String.toList_ofList, List.mem_map]
  rintro ⟨n, hn, hdot⟩
  have hsextet := sextet_digit (lt_of_mem_sextets bytes n hn)
  rw [hdot] at hsextet
  cases hsextet

theorem base64UrlEncode_ne_empty {bytes : List UInt8} (h : bytes ≠ []) :
    base64UrlEncode bytes ≠ "" := by
  intro hempty
  have hdecode := base64UrlDecode_encode bytes
  rw [hempty] at hdecode
  exact h (Option.some.inj hdecode).symm

example : base64UrlEncode "Man\x0d".toUTF8.toList = "TWFuDQ" := by decide +kernel

end Encoding
