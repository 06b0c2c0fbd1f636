import Mathlib.Tactic

namespace OptionChainSimulator.Utils

/-- A 128-bit identifier, ordered as its bytes are. -/
abbrev Uuid := Fin (2 ^ 128)

/-- The hyphenated form, in lower-case hexadecimal digits. -/
def Uuid.hyphenated (id : Uuid) : String :=
  let digits := (Nat.toDigits 16 id).leftpad 32 '0'
  let group (from_ width : Nat) := String.ofList ((digits.drop from_).take width)
  s!"{group 0 8}-{group 8 4}-{group 12 4}-{group 16 4}-{group 20 12}"

def someId : Uuid := 7

/-- A reading of the wall clock, in nanoseconds from the Unix epoch. -/
abbrev SystemTime := Int

/-- The value of a hexadecimal digit. -/
def hexDigit (digit : Char) : Nat :=
  (List.range 16).findIdx fun value => value.digitChar = digit

def hexValue (digits : List Char) : Nat :=
  digits.foldl (fun value digit => 16 * value + hexDigit digit) 0

theorem hexDigit_digitChar {value : Nat} (small : value < 16) :
    hexDigit value.digitChar = value ∧ value.digitChar ≠ '-' := by
  have all : ∀ digit : Fin 16,
      hexDigit digit.val.digitChar = digit.val ∧ digit.val.digitChar ≠ '-' := by
    decide
  exact all ⟨value, small⟩

theorem hexValue_concat (digits : List Char) (digit : Char) :
    hexValue (digits ++ [digit]) = 16 * hexValue digits + hexDigit digit := by
  simp [hexValue]

theorem hexValue_toDigits (value : Nat) :
    hexValue (Nat.toDigits 16 value) = value ∧ '-' ∉ Nat.toDigits 16 value := by
  induction value using Nat.strong_induction_on with
  | _ value ih =>
      rw [Nat.toDigits_eq_if (by decide)]
      split_ifs with small
      · obtain ⟨back, noHyphen⟩ := hexDigit_digitChar small
        refine ⟨?_, ?_⟩
        · change hexValue ([] ++ [value.digitChar]) = value
          rw [hexValue_concat, back]
          simp [hexValue]
        · rw [List.mem_singleton]
          exact noHyphen.symm
      · obtain ⟨back, noHyphen⟩ := hexDigit_digitChar (Nat.mod_lt value (by decide : 0 < 16))
        obtain ⟨higher, others⟩ := ih (value / 16) (by omega)
        refine ⟨?_, ?_⟩
        · rw [hexValue_concat, back, higher]
          omega
        · rw [List.mem_append, List.mem_singleton]
          rintro (inside | last)
          · exact others inside
          · exact noHyphen last.symm

theorem hexValue_leftpad (width : Nat) (digits : List Char) :
    hexValue (digits.leftpad width '0') = hexValue digits := by
  have zeros : ∀ count, hexValue (List.replicate count '0') = 0 := by
    intro count
    induction count with
    | zero => rfl
    | succ count ih =>
        rw [List.replicate_succ', hexValue_concat, ih]
        rfl
  have zero := zeros (width - digits.length)
  unfold hexValue at zero ⊢
  rw [List.leftpad, List.foldl_append, zero]

theorem filter_groups {digits : List Char} (length : digits.length = 32)
    (noHyphen : '-' ∉ digits) :
    ((digits.drop 0).take 8 ++ '-' :: ((digits.drop 8).take 4 ++ '-' :: ((digits.drop 12).take 4 ++
      '-' :: ((digits.drop 16).take 4 ++ '-' :: (digits.drop 20).take 12)))).filter
        (fun digit => digit ≠ '-') = digits := by
  have kept : ∀ part : List Char, part ⊆ digits →
      part.filter (fun digit => digit ≠ '-') = part := by
    intro part within
    rw [List.filter_eq_self]
    intro digit member
    apply decide_eq_true
    intro hyphen
    exact noHyphen (hyphen ▸ within member)
  have parts : ∀ start count, (digits.drop start).take count ⊆ digits :=
    fun start count digit member =>
    List.mem_of_mem_drop (List.mem_of_mem_take member)
  have last : (digits.drop 20).take 12 = digits.drop 20 := by
    apply List.take_of_length_le
    rw [List.length_drop, length]
  have split : ∀ start count, (digits.drop start).take count ++ digits.drop (start + count) =
      digits.drop start := by
    intro start count
    rw [← List.drop_drop, List.take_append_drop]
  simp only [List.filter_append, List.filter_cons, ne_eq, not_true_eq_false, decide_false,
    Bool.false_eq_true, if_false]
  simp only [← ne_eq, kept _ (parts _ _)]
  rw [last, split 16 4, split 12 4, split 8 4, split 0 8, List.drop_zero]

theorem Uuid.toList_hyphenated (id : Uuid) {digits : List Char}
    (padded : (Nat.toDigits 16 id).leftpad 32 '0' = digits) :
    id.hyphenated.toList = (digits.drop 0).take 8 ++ '-' :: ((digits.drop 8).take 4 ++
      '-' :: ((digits.drop 12).take 4 ++ '-' :: ((digits.drop 16).take 4 ++
        '-' :: (digits.drop 20).take 12))) := by
  unfold Uuid.hyphenated
  rw [padded]
  simp [toString]

theorem Uuid.hyphenated_injective : Function.Injective Uuid.hyphenated := by
  have digits : ∀ id : Uuid, id.hyphenated.toList.filter (fun digit => digit ≠ '-') =
      (Nat.toDigits 16 id).leftpad 32 '0' := by
    intro id
    have short : (Nat.toDigits 16 id).length ≤ 32 := by
      rw [Nat.length_toDigits_le_iff (by decide) (by decide)]
      exact id.isLt
    have noHyphen : '-' ∉ (Nat.toDigits 16 id).leftpad 32 '0' := by
      rw [List.leftpad, List.mem_append]
      rintro (zero | digit)
      · exact absurd (List.eq_of_mem_replicate zero) (by decide)
      · exact (hexValue_toDigits id).2 digit
    have length : ((Nat.toDigits 16 id).leftpad 32 '0').length = 32 := by
      rw [List.leftpad, List.length_append, List.length_replicate]
      omega
    rw [Uuid.toList_hyphenated id rfl]
    exact filter_groups length noHyphen
  intro left right same
  have equal := digits left
  rw [same, digits right] at equal
  have values := congrArg hexValue equal
  rw [hexValue_leftpad, hexValue_leftpad, (hexValue_toDigits _).1, (hexValue_toDigits _).1]
    at values
  exact Fin.val_injective values.symm

end OptionChainSimulator.Utils
