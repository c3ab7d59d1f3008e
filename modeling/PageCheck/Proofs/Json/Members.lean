import Mathlib.Data.List.Nodup
import PageCheck.Json.Value

/-!
# Objects as ordered members

An object is known by the order of its keys and by what stands under each of them. Setting a key
changes the value of that key alone and adds a new key after the others. Objects that do not repeat
a key are equal as soon as their keys and the values under them are.
-/

namespace PageCheck

namespace Members

@[simp]
theorem keys_nil : keys [] = [] := rfl

@[simp]
theorem keys_cons (key : String) (value : Json) (rest : Members) :
    keys ((key, value) :: rest) = key :: keys rest := rfl

@[simp]
theorem keys_append (first second : Members) : keys (first ++ second) = keys first ++ keys second :=
  List.map_append

/-- A key has a value if it is among the keys. -/
theorem get?_eq_none_iff {key : String} {members : Members} :
    members.get? key = none ↔ key ∉ members.keys := by
  induction members with
  | nil => simp [get?]
  | cons member rest ih =>
    obtain ⟨k, value⟩ := member
    by_cases h : k = key
    · simp [get?, h]
    · simp [get?, h, ih, Ne.symm h]

/-- What a key holds is the value of a member. -/
theorem mem_of_get?_eq_some {key : String} {value : Json} {members : Members}
    (found : members.get? key = some value) : (key, value) ∈ members := by
  induction members with
  | nil => cases found
  | cons member rest ih =>
    obtain ⟨k, first⟩ := member
    by_cases h : k = key
    · rw [get?, if_pos h] at found
      cases found
      exact h ▸ List.mem_cons_self
    · rw [get?, if_neg h] at found
      exact List.mem_cons_of_mem _ (ih found)

/-- A member of an object without repeated keys is what its key holds. -/
theorem get?_eq_some_of_mem {key : String} {value : Json} {members : Members}
    (unique : members.keys.Nodup) (mem : (key, value) ∈ members) :
    members.get? key = some value := by
  induction members with
  | nil => cases mem
  | cons member rest ih =>
    obtain ⟨k, first⟩ := member
    rw [keys_cons, List.nodup_cons] at unique
    rcases List.mem_cons.mp mem with heq | hrest
    · cases heq
      rw [get?, if_pos rfl]
    · have hne : k ≠ key := by
        rintro rfl
        exact unique.1 (List.mem_map_of_mem hrest)
      rw [get?, if_neg hne, ih unique.2 hrest]

/-- Setting a key gives it the value, and leaves what the other keys hold. -/
theorem get?_insert (key other : String) (value : Json) (members : Members) :
    (members.insert key value).get? other =
      if key = other then some value else members.get? other := by
  induction members with
  | nil => rfl
  | cons member rest ih =>
    obtain ⟨k, old⟩ := member
    by_cases hk : k = key
    · subst hk
      rw [insert, if_pos rfl, get?, get?]
      split <;> rfl
    · rw [insert, if_neg hk, get?, get?, ih]
      by_cases ho : k = other
      · simp [ho, (ho ▸ Ne.symm hk : key ≠ other)]
      · simp [ho]

/-- Setting a key to what it holds changes nothing. -/
theorem insert_of_get?_eq_some {key : String} {value : Json} {members : Members}
    (held : members.get? key = some value) : members.insert key value = members := by
  induction members with
  | nil => cases held
  | cons member rest ih =>
    obtain ⟨k, first⟩ := member
    by_cases h : k = key
    · rw [get?, if_pos h] at held
      cases held
      rw [insert, if_pos h]
    · rw [get?, if_neg h] at held
      rw [insert, if_neg h, ih held]

/-- A new key comes last, and a present one stays where it is. -/
theorem keys_insert (key : String) (value : Json) (members : Members) :
    (members.insert key value).keys =
      if key ∈ members.keys then members.keys else members.keys ++ [key] := by
  induction members with
  | nil => rfl
  | cons member rest ih =>
    obtain ⟨k, old⟩ := member
    by_cases hk : k = key
    · simp [insert, hk]
    · rw [insert, if_neg hk, keys_cons, keys_cons, ih]
      by_cases hmem : key ∈ keys rest
      · simp [hmem]
      · simp [hmem, Ne.symm hk]

/-- A member with a new key is added after the others. -/
theorem insert_of_notMem {key : String} {members : Members} (new : key ∉ members.keys)
    (value : Json) : members.insert key value = members ++ [(key, value)] := by
  induction members with
  | nil => rfl
  | cons member rest ih =>
    obtain ⟨k, old⟩ := member
    rw [keys_cons, List.mem_cons, not_or] at new
    rw [insert, if_neg (Ne.symm new.1), ih new.2, List.cons_append]

/-- Setting a key repeats none. -/
theorem nodup_keys_insert {members : Members} (unique : members.keys.Nodup) (key : String)
    (value : Json) : (members.insert key value).keys.Nodup := by
  rw [keys_insert]
  split
  · exact unique
  · next hnew => exact (List.nodup_append_comm.mp (List.nodup_cons.mpr ⟨hnew, unique⟩))

/-- What holds of all values goes on to hold when a key is set to another such value. -/
theorem forall_mem_insert (kept : Json → Prop) {members : Members}
    (held : ∀ member ∈ members, kept member.2) {key : String} {value : Json} (new : kept value) :
    ∀ member ∈ members.insert key value, kept member.2 := by
  induction members with
  | nil => exact List.forall_mem_singleton.mpr new
  | cons member rest ih =>
    obtain ⟨hmember, hrest⟩ := List.forall_mem_cons.mp held
    rw [insert]
    split
    · exact List.forall_mem_cons.mpr ⟨new, hrest⟩
    · exact List.forall_mem_cons.mpr ⟨hmember, ih hrest⟩

/-- What holds of the values of some members holds of those of the object that is built of them. -/
theorem forall_mem_ofList (kept : Json → Prop) {members : Members}
    (held : ∀ member ∈ members, kept member.2) : ∀ member ∈ ofList members, kept member.2 :=
  List.foldlRecOn (motive := fun object : Members => ∀ member ∈ object, kept member.2) members _
    (List.forall_mem_nil _) fun _ object member mem =>
      forall_mem_insert kept object (held member mem)

/-- New members are added to an object one after the other. -/
theorem foldl_insert_of_nodup (members object : Members)
    (unique : (keys (object ++ members)).Nodup) :
    members.foldl (fun object (key, value) => Members.insert key value object) object =
      object ++ members := by
  induction members generalizing object with
  | nil => simp
  | cons member rest ih =>
    obtain ⟨key, value⟩ := member
    have hnew : key ∉ object.keys := by
      rw [keys_append, keys_cons] at unique
      intro hmem
      exact List.disjoint_of_nodup_append unique hmem List.mem_cons_self
    have hrest := ih (object ++ [(key, value)]) (by simpa using unique)
    rw [List.foldl_cons]
    dsimp only
    rw [insert_of_notMem hnew, hrest, List.append_assoc, List.singleton_append]

/-- Building an object from members without a repeated key leaves them as they are. -/
theorem ofList_of_nodup {members : Members} (unique : members.keys.Nodup) :
    ofList members = members :=
  foldl_insert_of_nodup members [] unique

/-- Objects without repeated keys that have the same keys in the same order, and the same values
under them, are equal. -/
theorem ext_of_nodup {first second : Members} (unique : first.keys.Nodup)
    (same : first.keys = second.keys) (alike : ∀ key, first.get? key = second.get? key) :
    first = second := by
  induction first generalizing second with
  | nil =>
    cases second with
    | nil => rfl
    | cons member rest => cases same
  | cons member rest ih =>
    obtain ⟨key, value⟩ := member
    cases second with
    | nil => cases same
    | cons member' rest' =>
      obtain ⟨key', value'⟩ := member'
      rw [keys_cons, keys_cons, List.cons.injEq] at same
      obtain ⟨rfl, hkeys⟩ := same
      rw [keys_cons, List.nodup_cons] at unique
      have hvalue := alike key
      rw [get?, get?, if_pos rfl, if_pos rfl, Option.some.injEq] at hvalue
      have hrest : ∀ other, get? other rest = get? other rest' := by
        intro other
        by_cases h : key = other
        · subst h
          rw [get?_eq_none_iff.mpr unique.1, get?_eq_none_iff.mpr (hkeys ▸ unique.1)]
        · have := alike other
          rwa [get?, get?, if_neg h, if_neg h] at this
      rw [hvalue, ih unique.2 hkeys hrest]

end Members

namespace Json

/-- The value of a member of an object without repeated keys has none itself. -/
theorem UniqueKeysMembers.of_mem {members : Members} (unique : UniqueKeysMembers members)
    {key : String} {value : Json} (mem : (key, value) ∈ members) : value.UniqueKeys := by
  induction members with
  | nil => cases mem
  | cons member rest ih =>
    obtain ⟨k, first⟩ := member
    rcases List.mem_cons.mp mem with heq | hrest
    · cases heq
      exact unique.1
    · exact ih unique.2 hrest

/-- What a key of an object without repeated keys holds repeats none either. -/
theorem UniqueKeysMembers.of_get? {members : Members} (unique : UniqueKeysMembers members)
    {key : String} {value : Json} (found : members.get? key = some value) : value.UniqueKeys :=
  unique.of_mem (Members.mem_of_get?_eq_some found)

/-- Setting a key to a value without repeated keys adds none. -/
theorem UniqueKeysMembers.insert {members : Members} (unique : UniqueKeysMembers members)
    (key : String) {value : Json} (hvalue : value.UniqueKeys) :
    UniqueKeysMembers (members.insert key value) := by
  induction members with
  | nil => exact ⟨hvalue, trivial⟩
  | cons member rest ih =>
    obtain ⟨k, old⟩ := member
    rw [Members.insert]
    split
    · exact ⟨hvalue, unique.2⟩
    · exact ⟨unique.1, ih unique.2⟩

/-- An object without repeated keys stays one when a key is set to a value without any. -/
theorem UniqueKeys.insert {members : Members} (unique : (Json.object members).UniqueKeys)
    (key : String) {value : Json} (hvalue : value.UniqueKeys) :
    (Json.object (members.insert key value)).UniqueKeys :=
  ⟨Members.nodup_keys_insert unique.1 key value, unique.2.insert key hvalue⟩

end Json

end PageCheck
