import Mathlib.Tactic

namespace OptionChainSimulator.Foundation.Delimited

/-! Documents made of self-delimiting items: items one after another, and items between
brackets with a separator before each but the first. -/

variable {Symbol Item : Type}

/-- `decode` reads one item off the front. -/
structure Codec (Symbol Item : Type) where
  encode : Item → List Symbol
  decode : List Symbol → Option (Item × List Symbol)

/-- Whatever follows an encoded item, it decodes to that item and what follows. -/
structure Codec.Faithful (codec : Codec Symbol Item) (items : List Item) : Prop where
  decodes : ∀ item ∈ items, ∀ rest, codec.decode (codec.encode item ++ rest) = some (item, rest)
  nonempty : ∀ item ∈ items, codec.encode item ≠ []

theorem Codec.Faithful.tail {codec : Codec Symbol Item} {item : Item} {rest : List Item}
    (faithful : codec.Faithful (item :: rest)) : codec.Faithful rest :=
  ⟨fun other member => faithful.decodes other (List.mem_cons_of_mem _ member),
    fun other member => faithful.nonempty other (List.mem_cons_of_mem _ member)⟩

section Sequence

variable (codec : Codec Symbol Item)

def readSequence : (fuel : Nat) → List Symbol → Option (List Item)
  | _, [] => some []
  | 0, _ :: _ => none
  | fuel + 1, first :: input => do
      let (item, rest) ← codec.decode (first :: input)
      let others ← readSequence fuel rest
      return item :: others

def decodeSequence (input : List Symbol) : Option (List Item) :=
  readSequence codec input.length input

end Sequence

section Bracketed

variable [DecidableEq Symbol] (codec : Codec Symbol Item) (separator closing : Symbol)

/-- The items up to the closing bracket, the first without a separator. -/
def readItems : (fuel : Nat) → List Symbol → Option (List Item × List Symbol)
  | 0, _ => none
  | fuel + 1, input => do
      let (item, rest) ← codec.decode input
      match rest with
      | [] => none
      | symbol :: rest =>
          if symbol = closing then return ([item], rest)
          else if symbol = separator then do
            let (others, rest) ← readItems fuel rest
            return (item :: others, rest)
          else none

/-- A whole document between brackets, with nothing after it. -/
def decodeBracketed (opening : Symbol) (input : List Symbol) : Option (List Item) :=
  match input with
  | [] => none
  | first :: rest =>
      if first = opening then
        if rest = [closing] then some []
        else
          match readItems codec separator closing rest.length rest with
          | some (items, []) => some items
          | _ => none
      else none

end Bracketed

/-- Pieces in order, a separator before each but the first of the document. -/
def separated (separator : Symbol) : (first : Bool) → List (List Symbol) → List Symbol
  | _, [] => []
  | first, piece :: rest =>
      (if first then [] else [separator]) ++ piece ++ separated separator false rest

theorem separated_append (separator : Symbol) (first : Bool) (left right : List (List Symbol)) :
    separated separator first (left ++ right) =
      separated separator first left ++ separated separator (first && left.isEmpty) right := by
  induction left generalizing first with
  | nil => simp [separated]
  | cons piece rest ih =>
      rw [List.cons_append, separated, ih, separated]
      simp [List.append_assoc]

section RoundTrip

variable {codec : Codec Symbol Item} {items : List Item}

theorem readSequence_encoded (faithful : codec.Faithful items) {fuel : Nat}
    (enough : items.length ≤ fuel) :
    readSequence codec fuel (items.flatMap codec.encode) = some items := by
  induction items generalizing fuel with
  | nil =>
      cases fuel with
      | zero => rfl
      | succ fuel => rfl
  | cons item rest ih =>
      have decoded := faithful.decodes item List.mem_cons_self (rest.flatMap codec.encode)
      have shown := faithful.nonempty item List.mem_cons_self
      rw [List.flatMap_cons]
      cases written : codec.encode item with
      | nil => exact absurd written shown
      | cons symbol symbols =>
          rw [written, List.cons_append] at decoded
          cases fuel with
          | zero => cases enough
          | succ fuel =>
              rw [List.cons_append, readSequence, decoded]
              simp only [Option.bind_eq_bind, Option.bind_some,
                ih faithful.tail (Nat.le_of_succ_le_succ enough)]
              rfl

theorem length_le_flatMap_encode (faithful : codec.Faithful items) :
    items.length ≤ (items.flatMap codec.encode).length := by
  induction items with
  | nil => exact Nat.zero_le _
  | cons item rest ih =>
      have long := List.length_pos_of_ne_nil (faithful.nonempty item List.mem_cons_self)
      have shorter := ih faithful.tail
      rw [List.flatMap_cons, List.length_append, List.length_cons]
      omega

theorem decodeSequence_encoded (faithful : codec.Faithful items) :
    decodeSequence codec (items.flatMap codec.encode) = some items :=
  readSequence_encoded faithful (length_le_flatMap_encode faithful)

theorem length_lt_separated {separator : Symbol} {item : Item}
    (faithful : codec.Faithful (item :: items)) :
    items.length < (codec.encode item ++
      separated separator false (items.map codec.encode)).length := by
  induction items generalizing item with
  | nil =>
      have long := List.length_pos_of_ne_nil (faithful.nonempty item List.mem_cons_self)
      simpa [separated] using long
  | cons next rest ih =>
      have shorter := ih faithful.tail
      simp [separated] at shorter ⊢
      omega

variable [DecidableEq Symbol] {separator closing : Symbol}

theorem readItems_encoded (distinct : separator ≠ closing) {item : Item}
    (faithful : codec.Faithful (item :: items)) {fuel : Nat} (enough : items.length < fuel)
    (after : List Symbol) :
    readItems codec separator closing fuel
        (codec.encode item ++ separated separator false (items.map codec.encode) ++
          closing :: after) =
      some (item :: items, after) := by
  induction items generalizing item fuel with
  | nil =>
      have decoded := faithful.decodes item List.mem_cons_self (closing :: after)
      cases fuel with
      | zero => cases enough
      | succ fuel => simp [readItems, separated, decoded]
  | cons next rest ih =>
      cases fuel with
      | zero => cases enough
      | succ fuel =>
          have following := ih faithful.tail (Nat.lt_of_succ_lt_succ enough)
          have decoded := faithful.decodes item List.mem_cons_self
            (separator :: (codec.encode next ++
              separated separator false (rest.map codec.encode) ++ closing :: after))
          simp [readItems, separated, List.append_assoc] at decoded following ⊢
          simp [decoded, distinct, following]

theorem decodeBracketed_encoded (distinct : separator ≠ closing)
    (faithful : codec.Faithful items) (opening : Symbol) :
    decodeBracketed codec separator closing opening
        (opening :: separated separator true (items.map codec.encode) ++ [closing]) =
      some items := by
  cases items with
  | nil => simp [decodeBracketed, separated]
  | cons item rest =>
      have long : rest.length <
          (codec.encode item ++ separated separator false (rest.map codec.encode)).length :=
        length_lt_separated faithful
      have notEmpty : codec.encode item ++
          separated separator false (rest.map codec.encode) ++ [closing] ≠ [closing] := by
        intro equal
        have emptied := List.append_eq_nil_iff.mp (List.append_cancel_right
          (equal.trans (List.nil_append [closing]).symm))
        exact faithful.nonempty item List.mem_cons_self emptied.1
      have enough : rest.length < (codec.encode item ++
          separated separator false (rest.map codec.encode) ++ [closing]).length := by
        rw [List.length_append]
        omega
      have read := readItems_encoded distinct faithful enough []
      simp only [decodeBracketed, List.map_cons, separated, List.cons_append, if_true,
        List.nil_append]
      rw [if_neg notEmpty, read]

/-! Items that no closing symbol follows are no document. -/

theorem readItems_unclosed (distinct : separator ≠ closing) {item : Item}
    (faithful : codec.Faithful (item :: items)) (fuel : Nat) :
    readItems codec separator closing fuel
      (codec.encode item ++ separated separator false (items.map codec.encode)) = none := by
  induction items generalizing item fuel with
  | nil =>
      have decoded := faithful.decodes item List.mem_cons_self []
      cases fuel with
      | zero => rfl
      | succ fuel =>
          rw [List.append_nil] at decoded
          simp [readItems, separated, decoded]
  | cons next rest ih =>
      cases fuel with
      | zero => rfl
      | succ fuel =>
          have following := ih faithful.tail fuel
          have decoded := faithful.decodes item List.mem_cons_self
            (separator :: (codec.encode next ++
              separated separator false (rest.map codec.encode)))
          simp [readItems, separated] at decoded following ⊢
          simp [decoded, distinct, following]

theorem decodeBracketed_unclosed (distinct : separator ≠ closing)
    (faithful : codec.Faithful items) (unlike : ∀ item ∈ items, codec.encode item ≠ [closing])
    (opening : Symbol) :
    decodeBracketed codec separator closing opening
      (opening :: separated separator true (items.map codec.encode)) = none := by
  cases items with
  | nil => simp [decodeBracketed, separated, readItems]
  | cons item rest =>
      have unread := readItems_unclosed distinct faithful (codec.encode item ++
        separated separator false (rest.map codec.encode)).length
      have notEmpty : codec.encode item ++
          separated separator false (rest.map codec.encode) ≠ [closing] := by
        intro equal
        cases rest with
        | nil =>
            rw [List.map_nil, separated, List.append_nil] at equal
            exact unlike item List.mem_cons_self equal
        | cons next rest =>
            have long := List.length_pos_of_ne_nil (faithful.nonempty item List.mem_cons_self)
            have counted := congrArg List.length equal
            simp [separated] at counted
            omega
      simp only [decodeBracketed, List.map_cons, separated, if_true, List.nil_append]
      rw [if_neg notEmpty, unread]

end RoundTrip

end OptionChainSimulator.Foundation.Delimited
