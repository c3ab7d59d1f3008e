import PageCheck.Proofs.Json.Drafts

/-!
# Integers of the exact range

A number that is written without a point and without an exponent is read as an integer as long as it
is of the exact range, and as a double beyond it. So no integer outside of the range is read of any
text, nor is there one in a value that is decoded from what is read.
-/

namespace PageCheck

open Decimal (wordLimit)

/-- Whether a number is of the exact range if it is an integer. -/
def Number.Ranged : Number → Prop
  | .integer n => Json.InRange n
  | .double _ => True

namespace Json

/-! ### Numbers -/

/-- A significand stays a word. -/
theorem takeWhole_lt {s : Significand} (small : s.value < wordLimit) (c : Char) :
    (s.takeWhole c).value < wordLimit := by
  rw [Significand.takeWhole]
  split_ifs with hfull
  · exact small
  · rw [Bool.or_eq_true, decide_eq_true_eq, not_or, Nat.not_le] at hfull
    exact hfull.2

/-- The digits before the point make a word. -/
theorem foldl_takeWhole_lt (digits : List Char) :
    (digits.foldl Significand.takeWhole ⟨0, 0, false⟩).value < wordLimit :=
  List.foldlRecOn (motive := fun s : Significand => s.value < wordLimit) digits _ (by decide)
    fun _ small c _ => takeWhole_lt small c

/-- What is rounded is no integer. -/
theorem ranged_decimalDouble {negative : Bool} {value : Nat} {power : Int} {n : Number}
    (rounded : decimalDouble negative value power = .ok n) : n.Ranged := by
  rw [decimalDouble] at rounded
  split at rounded
  · cases rounded
  · split at rounded <;> cases rounded
    trivial

/-- What is assembled from the parts of a number is of the exact range if it is an integer. -/
theorem ranged_assembleNumber {negative : Bool} {whole : List Char}
    {fraction : Option (List Char)} {exponent : Option (Bool × Nat)} {n : Number}
    (assembled : assembleNumber negative whole fraction exponent = .ok n) : n.Ranged := by
  have hsmall := foldl_takeWhole_lt whole
  rw [assembleNumber.eq_def] at assembled
  generalize whole.foldl Significand.takeWhole ⟨0, 0, false⟩ = integral at hsmall assembled
  have hword : (integral.value : Int) < (Nat.pow 2 64 : Nat) := Int.ofNat_lt.mpr hsmall
  dsimp only at assembled
  split at assembled
  · split_ifs at assembled with hfull hpositive hlarge
    · exact ranged_decimalDouble assembled
    · cases assembled
      exact ⟨by omega, hword⟩
    · exact ranged_decimalDouble assembled
    · cases assembled
      rw [Bool.or_eq_true, not_or, decide_eq_true_eq, decide_eq_true_eq, Nat.not_lt] at hlarge
      have hlower : (integral.value : Int) ≤ (Nat.pow 2 63 : Nat) := Int.ofNat_le.mpr hlarge.2
      exact ⟨by omega, by omega⟩
  · split at assembled
    · exact ranged_decimalDouble assembled
    · split_ifs at assembled
      · cases assembled
        trivial
      all_goals exact ranged_decimalDouble assembled

/-- So is a number that is read. -/
theorem ranged_readNumber {negative : Bool} {text rest : List Char} {n : Number}
    (read : readNumber negative text = .ok (n, rest)) : n.Ranged := by
  obtain ⟨_, _, hfraction⟩ := ok_of_bind read
  obtain ⟨_, _, hexponent⟩ := ok_of_bind hfraction
  obtain ⟨_, _, hnumber⟩ := ok_of_bind hexponent
  obtain ⟨number, hassembled, hn⟩ := ok_of_bind hnumber
  cases hn
  exact ranged_assembleNumber hassembled

/-! ### Drafts -/

/-- Every integer in a draft is of the exact range. -/
def Draft.Ranged (draft : Draft) : Prop := ∀ n ∈ draft.numbers, n.Ranged

namespace Draft.Ranged

/-- The parts of a draft have no other integers. -/
theorem parts {draft : Draft} (ranged : draft.Ranged) : ∀ part ∈ draft.parts, part.Ranged := by
  cases draft with
  | array items ending =>
    exact fun item hmem n hn => ranged n (numbers_subset_items hmem hn)
  | object members ending =>
    rw [Draft.parts, List.forall_mem_map]
    exact fun member hmem n hn => ranged n (numbers_subset_members hmem hn)
  | _ => exact List.forall_mem_nil _

/-- An array has the integers of its items only. -/
theorem array {items : List Draft} {ending : Ending} (contents : ∀ item ∈ items, item.Ranged) :
    Ranged (.array items ending) := by
  intro n hn
  rw [numbers, numbersItems_eq_flatMap] at hn
  obtain ⟨item, hmem, hitem⟩ := List.mem_flatMap.mp hn
  exact contents item hmem n hitem

/-- An object has the integers of its members' values only. -/
theorem object {members : List (String × Draft)} {ending : Ending}
    (contents : ∀ member ∈ members, member.2.Ranged) : Ranged (.object members ending) := by
  intro n hn
  rw [numbers, numbersMembers_eq_flatMap] at hn
  obtain ⟨member, hmem, hmember⟩ := List.mem_flatMap.mp hn
  exact contents member hmem n hmember

end Draft.Ranged

/-- Every integer that is read is of the exact range, however deep it is nested. -/
theorem readable_ranged : Draft.Readable fun _ draft => draft.Ranged where
  fault _ := List.forall_mem_nil _
  null := List.forall_mem_nil _
  bool _ := List.forall_mem_nil _
  number read := List.forall_mem_singleton.mpr (ranged_readNumber read)
  string _ := List.forall_mem_nil _
  array := .array
  object := .object

/-- A word that is decoded is one. -/
theorem decodeWord_lt {draft : Draft} (ranged : draft.Ranged) {wanted : String} {n : Nat}
    (decoded : decodeWord wanted draft = .ok n) : n < wordLimit := by
  rw [decodeWord.eq_def] at decoded
  split at decoded
  next value =>
    split at decoded
    next hpositive =>
      cases decoded
      have hupper : value < (Nat.pow 2 64 : Nat) := (ranged _ List.mem_cons_self).2
      exact (Int.toNat_lt hpositive).mpr hupper
    next => cases decoded
  next => cases decoded

/-! ### Values -/

mutual

/-- Any value that is decoded from a draft has no other integers. -/
theorem ranged_decodeValue : ∀ {draft : Draft} {value : Json}, draft.Ranged →
    decodeValue draft = .ok value → value.draft.Ranged
  | .fault _, _, _, decoded => by
    rw [decodeValue] at decoded
    cases decoded
  | .null, _, _, decoded | .bool _, _, _, decoded | .string _, _, _, decoded => by
    rw [decodeValue] at decoded
    cases decoded
    exact List.forall_mem_nil _
  | .number n, _, ranged, decoded => by
    rw [decodeValue] at decoded
    cases decoded
    exact ranged
  | .array _ _, _, ranged, decoded => by
    rw [decodeValue] at decoded
    obtain ⟨values, hvalues, hrest⟩ := ok_of_bind decoded
    obtain ⟨_, _, hvalue⟩ := ok_of_bind hrest
    cases hvalue
    rw [draft, draftItems_eq_map]
    exact .array (List.forall_mem_map.mpr (ranged_decodeValues ranged.parts hvalues))
  | .object _ _, _, ranged, decoded => by
    rw [decodeValue] at decoded
    obtain ⟨values, hvalues, hrest⟩ := ok_of_bind decoded
    obtain ⟨_, _, hvalue⟩ := ok_of_bind hrest
    cases hvalue
    have hparts := ranged.parts
    rw [Draft.parts, List.forall_mem_map] at hparts
    have hmembers : ∀ member ∈ Members.ofList values, member.2.draft.Ranged :=
      Members.forall_mem_ofList (fun value => value.draft.Ranged)
        (ranged_decodeMembers hparts hvalues)
    rw [draft, draftMembers_eq_map]
    exact .object (List.forall_mem_map.mpr hmembers)

/-- `ranged_decodeValue` for items. -/
theorem ranged_decodeValues : ∀ {items : List Draft} {values : List Json},
    (∀ item ∈ items, item.Ranged) → decodeValues items = .ok values →
    ∀ value ∈ values, value.draft.Ranged
  | [], _, _, decoded => by
    rw [decodeValues] at decoded
    cases decoded
    exact List.forall_mem_nil _
  | item :: rest, _, ranged, decoded => by
    rw [decodeValues] at decoded
    obtain ⟨first, hfirst, hrest⟩ := ok_of_bind decoded
    obtain ⟨others, hothers, hvalues⟩ := ok_of_bind hrest
    cases hvalues
    obtain ⟨hitem, hitems⟩ := List.forall_mem_cons.mp ranged
    exact List.forall_mem_cons.mpr
      ⟨ranged_decodeValue hitem hfirst, ranged_decodeValues hitems hothers⟩

/-- `ranged_decodeValue` for the values of members. -/
theorem ranged_decodeMembers : ∀ {members : List (String × Draft)}
    {values : List (String × Json)}, (∀ member ∈ members, member.2.Ranged) →
    decodeMembers members = .ok values → ∀ member ∈ values, member.2.draft.Ranged
  | [], _, _, decoded => by
    rw [decodeMembers] at decoded
    cases decoded
    exact List.forall_mem_nil _
  | (key, value) :: rest, _, ranged, decoded => by
    rw [decodeMembers] at decoded
    obtain ⟨first, hfirst, hrest⟩ := ok_of_bind decoded
    obtain ⟨others, hothers, hvalues⟩ := ok_of_bind hrest
    cases hvalues
    obtain ⟨hmember, hmembers⟩ := List.forall_mem_cons.mp ranged
    exact List.forall_mem_cons.mpr
      ⟨ranged_decodeValue hmember hfirst, ranged_decodeMembers hmembers hothers⟩

end

/-- Every integer in a value that a text is parsed as is of the exact range. -/
theorem ranged_parse {text : String} {value : Json} (parsed : parse text = .ok value) :
    value.draft.Ranged := by
  obtain ⟨root, hroot, hrest⟩ := ok_of_bind parsed
  obtain rfl : root = value := by
    split at hrest <;> cases hrest
    rfl
  exact ranged_decodeValue (kept_root readable_ranged text) hroot

end Json

end PageCheck
