import Mathlib.Data.List.Nodup
import PageCheck.Proofs.Json.Members
import PageCheck.Store

/-!
# Merging objects

Under each key a merge lays the value of the overlay over the value of the base, and new keys come
last. Laying several objects over a base one after the other is almost, but not quite, laying their
merge over the base: an object that one of them replaces by something else is gone for good in the
first case, but has its members back in the second one if a later object puts an object in its
place. `NothingRevivedIn` says that this happens nowhere, and it is exactly what the two have to
agree on.
-/

namespace PageCheck.Members

/-- What stands under a key of a merge: the value above laid over the one below. -/
def overlaid (below : Option Json) : Option Json → Option Json
  | none => below
  | some value => some (mergeValue below value)

/-- What stands under a key once values are laid over it one after the other. -/
def laid (below : Option Json) (layers : List Json) : Option Json :=
  layers.foldl (fun below value => some (mergeValue below value)) below

/-- The keys of a merge: those of the base, then the new ones of the overlay. -/
def joinKeys (below above : List String) : List String :=
  below ++ above.filter fun key => key ∉ below

/-! ### One merge -/

/-- A value that is no object replaces whatever is there. -/
theorem mergeValue_of_members?_eq_none {value : Json} (plain : value.members? = none)
    (below : Option Json) : mergeValue below value = value := by
  cases value with
  | object members => cases plain
  | _ => rw [mergeValue]; simp

/-- A value replaces what is no object. -/
theorem mergeValue_over_plain {below : Option Json} (plain : below.bind Json.members? = none)
    (value : Json) : mergeValue below value = value := by
  cases value with
  | object members =>
    rcases below with _ | below
    · rfl
    · cases below <;> first | rfl | cases plain
  | _ => rw [mergeValue]; simp

/-- A value laid over nothing, or over what is no object, is there as it is. -/
theorem overlaid_over_plain {below above : Option Json} (plain : below.bind Json.members? = none)
    (present : above ≠ none) : overlaid below above = above := by
  cases above with
  | none => exact absurd rfl present
  | some value => rw [overlaid, mergeValue_over_plain plain]

/-- What is laid over nothing is there as it is. -/
@[simp]
theorem overlaid_none_left (above : Option Json) : overlaid none above = above := by
  cases above with
  | none => rfl
  | some value => exact overlaid_over_plain rfl (by simp)

/-- What a key of a merge holds. -/
theorem get?_merge {overlay : Members} (unique : overlay.keys.Nodup) (base : Members)
    (key : String) :
    (merge base overlay).get? key = overlaid (base.get? key) (overlay.get? key) := by
  rw [merge]
  induction overlay generalizing base with
  | nil => rfl
  | cons member rest ih =>
    obtain ⟨k, value⟩ := member
    rw [keys_cons, List.nodup_cons] at unique
    rw [mergeOver, ih unique.2, get?_insert, get?]
    by_cases h : k = key
    · subst h
      rw [if_pos rfl, if_pos rfl, get?_eq_none_iff.mpr unique.1, overlaid, overlaid]
    · rw [if_neg h, if_neg h]

/-- The keys of a merge. -/
theorem keys_merge {overlay : Members} (unique : overlay.keys.Nodup) (base : Members) :
    (merge base overlay).keys = joinKeys base.keys overlay.keys := by
  rw [merge, joinKeys]
  induction overlay generalizing base with
  | nil => simp [mergeOver]
  | cons member rest ih =>
    obtain ⟨key, value⟩ := member
    rw [keys_cons, List.nodup_cons] at unique
    rw [mergeOver, ih unique.2, keys_insert, keys_cons]
    by_cases h : key ∈ base.keys
    · simp [h]
    · have hsame : (keys rest).filter (fun k => k ∉ base.keys ++ [key]) =
          (keys rest).filter (fun k => k ∉ base.keys) := by
        apply List.filter_congr
        intro k hk
        have hne : k ≠ key := fun heq => unique.1 (heq ▸ hk)
        simp [hne]
      rw [if_neg h, hsame, List.filter_cons_of_pos (by simpa using h), List.append_assoc,
        List.singleton_append]

mutual

/-- Laying a value without repeated keys over another one repeats none. -/
theorem uniqueKeys_mergeValue {below : Option Json}
    (hbelow : ∀ value, below = some value → value.UniqueKeys) :
    ∀ value : Json, value.UniqueKeys → (mergeValue below value).UniqueKeys
  | .object incoming, unique => by
    unfold mergeValue
    split
    · next existing => exact uniqueKeys_mergeOver (hbelow _ rfl) incoming unique.2
    · exact unique
  | .null, unique | .bool _, unique | .number _, unique | .string _, unique
  | .array _, unique => by
    rw [mergeValue_of_members?_eq_none rfl]
    exact unique

/-- Laying members without repeated keys over an object repeats none. -/
theorem uniqueKeys_mergeOver {base : Members} (hbase : (Json.object base).UniqueKeys) :
    ∀ overlay : Members, Json.UniqueKeysMembers overlay →
      (Json.object (mergeOver base overlay)).UniqueKeys
  | [], _ => hbase
  | (key, value) :: rest, unique => by
    have hvalue : (mergeValue (base.get? key) value).UniqueKeys :=
      uniqueKeys_mergeValue (fun _ found => hbase.2.of_get? found) value unique.1
    exact uniqueKeys_mergeOver (hbase.insert key hvalue) rest unique.2

end

/-- A merge of objects without repeated keys repeats none. -/
theorem uniqueKeys_merge {base overlay : Members} (hbase : (Json.object base).UniqueKeys)
    (hoverlay : (Json.object overlay).UniqueKeys) : (Json.object (merge base overlay)).UniqueKeys :=
  uniqueKeys_mergeOver hbase overlay hoverlay.2

/-! ### Several merges -/

/-- Nothing below adds no key. -/
@[simp]
theorem joinKeys_nil_left (above : List String) : joinKeys [] above = above := by
  simp [joinKeys]

/-- Nothing above adds no key. -/
@[simp]
theorem joinKeys_nil_right (below : List String) : joinKeys below [] = below := by
  simp [joinKeys]

/-- It does not matter to the keys in which order neighbours are merged. -/
theorem joinKeys_assoc (first second third : List String) :
    joinKeys (joinKeys first second) third = joinKeys first (joinKeys second third) := by
  simp only [joinKeys, List.filter_append, List.append_assoc, List.filter_filter]
  congr 2
  apply List.filter_congr
  intro key _
  by_cases hfirst : key ∈ first <;> simp [hfirst]

instance : Std.Associative joinKeys := ⟨joinKeys_assoc⟩

section

variable {fixtures : List Members}

/-- The keys of several merges, one after the other. -/
theorem keys_foldl_merge (unique : ∀ fixture ∈ fixtures, fixture.keys.Nodup) (base : Members) :
    (fixtures.foldl merge base).keys = (fixtures.map keys).foldl joinKeys base.keys := by
  induction fixtures generalizing base with
  | nil => rfl
  | cons fixture rest ih =>
    rw [List.foldl_cons, ih (fun other hmem => unique other (List.mem_cons_of_mem _ hmem)),
      keys_merge (unique fixture List.mem_cons_self), List.map_cons, List.foldl_cons]

/-- What a key holds after several merges, one after the other. -/
theorem get?_foldl_merge (unique : ∀ fixture ∈ fixtures, fixture.keys.Nodup) (base : Members)
    (key : String) : (fixtures.foldl merge base).get? key =
      laid (base.get? key) (fixtures.filterMap (get? key)) := by
  induction fixtures generalizing base with
  | nil => rfl
  | cons fixture rest ih =>
    rw [List.foldl_cons, ih (fun other hmem => unique other (List.mem_cons_of_mem _ hmem)),
      get?_merge (unique fixture List.mem_cons_self)]
    cases hfound : get? key fixture with
    | none => rw [List.filterMap_cons_none hfound, overlaid]
    | some value =>
      rw [List.filterMap_cons_some hfound]
      rfl

/-- Several merges, one after the other, repeat no key. -/
theorem uniqueKeys_foldl_merge (unique : ∀ fixture ∈ fixtures, (Json.object fixture).UniqueKeys)
    {base : Members} (hbase : (Json.object base).UniqueKeys) :
    (Json.object (fixtures.foldl merge base)).UniqueKeys := by
  induction fixtures generalizing base with
  | nil => exact hbase
  | cons fixture rest ih =>
    exact ih (fun other hmem => unique other (List.mem_cons_of_mem _ hmem))
      (uniqueKeys_merge hbase (unique fixture List.mem_cons_self))

end

/-! ### What comes back -/

mutual

/-- Whether laying values over a value, and laying what they give together over it, is the same. If
all of them and the value are objects, that is a matter of the members. If one of them is no object,
it replaces the value, and the members of the value must not come back under an object that is laid
over it later. -/
def NothingRevived : Json → List Json → Prop
  | .object below, layers =>
    if layers.all (·.members?.isSome) then
      NothingRevivedIn below (layers.filterMap Json.members?)
    else ∀ top, laid none layers = some (.object top) → merge below top = top
  | _, _ => True

/-- `NothingRevived` of every member of an object and what some objects hold under its key. -/
def NothingRevivedIn : List (String × Json) → List (List (String × Json)) → Prop
  | [], _ => True
  | (key, value) :: rest, fixtures =>
    NothingRevived value (fixtures.filterMap (Members.get? key)) ∧ NothingRevivedIn rest fixtures

end

/-- Where anything was laid there is something. -/
theorem laid_cons_ne_none (below : Option Json) (value : Json) (layers : List Json) :
    laid below (value :: layers) ≠ none := by
  induction layers generalizing below value with
  | nil => simp [laid]
  | cons next rest ih => exact ih (some (mergeValue below value)) next

/-- The first value that is laid over what is no object takes its place. -/
theorem laid_over_plain {below : Option Json} (plain : below.bind Json.members? = none)
    (value : Json) (layers : List Json) : laid below (value :: layers) = laid none (value :: layers)
    := by
  rw [laid, List.foldl_cons, mergeValue_over_plain plain, laid, List.foldl_cons,
    mergeValue_over_plain rfl]

/-- Once a value that is no object was laid over it, nothing of what was there is left. -/
theorem laid_of_replaced {layers : List Json}
    (replaced : layers.all (·.members?.isSome) = false) (below : Option Json) :
    laid below layers = laid none layers := by
  induction layers generalizing below with
  | nil => cases replaced
  | cons value rest ih =>
    rw [laid, List.foldl_cons, laid, List.foldl_cons]
    cases hmembers : value.members? with
    | none =>
      rw [mergeValue_of_members?_eq_none hmembers, mergeValue_of_members?_eq_none hmembers]
    | some members =>
      rw [List.all_cons, hmembers, Option.isSome_some, Bool.true_and] at replaced
      exact (ih replaced _).trans (ih replaced _).symm

/-- Values that are all objects. -/
theorem eq_map_object {layers : List Json} (objects : layers.all (·.members?.isSome) = true) :
    layers = (layers.filterMap Json.members?).map Json.object := by
  induction layers with
  | nil => rfl
  | cons value rest ih =>
    rw [List.all_cons, Bool.and_eq_true] at objects
    cases value with
    | object members =>
      have hfirst : (Json.object members).members? = some members := rfl
      rw [List.filterMap_cons_some hfirst, List.map_cons, ← ih objects.2]
    | _ => cases objects.1

/-- Laying objects over an object merges them. -/
theorem laid_objects (below : Members) (layers : List Members) :
    laid (some (.object below)) (layers.map .object) =
      some (.object (layers.foldl merge below)) := by
  induction layers generalizing below with
  | nil => rfl
  | cons first rest ih => exact ih (merge below first)

/-- Nothing laid over an object leaves it as it is. -/
@[simp]
theorem merge_nil_right (base : Members) : merge base [] = base := rfl

/-- An object without repeated keys laid over nothing is itself. -/
theorem merge_nil_left {overlay : Members} (unique : overlay.keys.Nodup) :
    merge [] overlay = overlay := by
  have hkeys : (merge [] overlay).keys = overlay.keys := by
    rw [keys_merge unique, keys_nil, joinKeys_nil_left]
  refine ext_of_nodup (hkeys ▸ unique) hkeys ?_
  intro key
  rw [get?_merge unique, get?, overlaid_none_left]

/-- What objects give together, laid over an object. -/
theorem overlaid_laid_objects (below : Members) {layers : List Members}
    (unique : ∀ layer ∈ layers, layer.keys.Nodup) :
    overlaid (some (.object below)) (laid none (layers.map .object)) =
      some (.object (merge below (layers.foldl merge []))) := by
  cases layers with
  | nil => rfl
  | cons first rest =>
    rw [List.map_cons, laid, List.foldl_cons, mergeValue_over_plain rfl, ← laid, laid_objects,
      List.foldl_cons, merge_nil_left (unique first List.mem_cons_self)]
    rfl

/-- Merging objects over a base one after the other, and merging what they give together over it,
is the same if it is so under every key of the base. -/
theorem merge_foldl_iff_members {definitions : Members}
    (hdefinitions : (Json.object definitions).UniqueKeys) {fixtures : List Members}
    (unique : ∀ fixture ∈ fixtures, (Json.object fixture).UniqueKeys) :
    merge definitions (fixtures.foldl merge []) = fixtures.foldl merge definitions ↔
      ∀ key value, (key, value) ∈ definitions →
        overlaid (some value) (laid none (fixtures.filterMap (get? key))) =
          laid (some value) (fixtures.filterMap (get? key)) := by
  have hkeys : ∀ fixture ∈ fixtures, fixture.keys.Nodup := fun fixture hmem =>
    (unique fixture hmem).1
  have hempty : (Json.object []).UniqueKeys := ⟨List.nodup_nil, trivial⟩
  have hmerged := uniqueKeys_foldl_merge unique hempty
  have htogether : (fixtures.foldl merge []).keys.Nodup := hmerged.1
  have hget : ∀ key, (merge definitions (fixtures.foldl merge [])).get? key =
      overlaid (definitions.get? key) (laid none (fixtures.filterMap (get? key))) := by
    intro key
    rw [get?_merge htogether, get?_foldl_merge hkeys, get?]
  constructor
  · intro heq key value hmem
    rw [← get?_eq_some_of_mem hdefinitions.1 hmem, ← hget, heq, get?_foldl_merge hkeys]
  · intro halike
    refine ext_of_nodup (uniqueKeys_merge hdefinitions hmerged).1 ?_ ?_
    · have hassoc : (fixtures.map keys).foldl joinKeys (joinKeys definitions.keys []) =
          joinKeys definitions.keys ((fixtures.map keys).foldl joinKeys []) := List.foldl_assoc
      rw [keys_merge htogether, keys_foldl_merge hkeys, keys_foldl_merge hkeys, keys_nil, ← hassoc,
        joinKeys_nil_right]
    · intro key
      rw [hget, get?_foldl_merge hkeys]
      cases hfound : definitions.get? key with
      | none => rw [overlaid_none_left]
      | some value => exact halike key value (mem_of_get?_eq_some hfound)

/-- Laying values over what is no object, one after the other or together, is the same. -/
theorem overlaid_laid_plain {below : Json} (plain : below.members? = none) (layers : List Json) :
    overlaid (some below) (laid none layers) = laid (some below) layers := by
  cases layers with
  | nil => rfl
  | cons value rest =>
    have hplain : (some below).bind Json.members? = none := plain
    rw [overlaid_over_plain hplain (laid_cons_ne_none none value rest),
      laid_over_plain hplain value rest]

/-- Once a value that is no object was laid over an object, what the values give together must
cover the object if it is to come to the same. -/
theorem overlaid_laid_replaced (below : Members) {layers : List Json}
    (replaced : layers.all (·.members?.isSome) = false) :
    overlaid (some (.object below)) (laid none layers) = laid (some (.object below)) layers ↔
      ∀ top, laid none layers = some (.object top) → merge below top = top := by
  rw [laid_of_replaced replaced (some (.object below))]
  cases layers with
  | nil => cases replaced
  | cons value rest =>
    cases htop : laid none (value :: rest) with
    | none => exact absurd htop (laid_cons_ne_none none value rest)
    | some top =>
      cases top with
      | object top =>
        simp only [overlaid, mergeValue, Option.some.injEq, Json.object.injEq, forall_eq']
        rfl
      | _ => simp [overlaid, mergeValue]

mutual

/-- Laying values over a value one after the other, and laying what they give together over it, is
the same just if nothing of the value is revived. -/
theorem overlaid_laid_iff : ∀ (below : Json) (layers : List Json), below.UniqueKeys →
    (∀ layer ∈ layers, layer.UniqueKeys) →
    (overlaid (some below) (laid none layers) = laid (some below) layers ↔
      NothingRevived below layers)
  | .object below, layers, hbelow, hlayers => by
    rw [NothingRevived]
    cases hall : layers.all (·.members?.isSome) with
    | false => simpa using overlaid_laid_replaced below hall
    | true =>
      have hobjects := eq_map_object hall
      rw [if_pos rfl]
      generalize layers.filterMap Json.members? = objects at hobjects
      subst hobjects
      have hunique : ∀ layer ∈ objects, (Json.object layer).UniqueKeys := fun layer hmem =>
        hlayers _ (List.mem_map_of_mem hmem)
      have hkeys : ∀ layer ∈ objects, layer.keys.Nodup := fun layer hmem => (hunique layer hmem).1
      rw [overlaid_laid_objects below hkeys, laid_objects, Option.some.injEq, Json.object.injEq,
        merge_foldl_iff_members hbelow hunique]
      exact members_laid_iff below objects hbelow.2 hunique
  | .null, layers, _, _ | .bool _, layers, _, _ | .number _, layers, _, _
  | .string _, layers, _, _ | .array _, layers, _, _ => by
    exact iff_of_true (overlaid_laid_plain rfl layers) trivial

/-- `overlaid_laid_iff` for the members of an object. -/
theorem members_laid_iff : ∀ (members : Members) (fixtures : List Members),
    Json.UniqueKeysMembers members →
    (∀ fixture ∈ fixtures, (Json.object fixture).UniqueKeys) →
    ((∀ key value, (key, value) ∈ members →
      overlaid (some value) (laid none (fixtures.filterMap (get? key))) =
        laid (some value) (fixtures.filterMap (get? key))) ↔ NothingRevivedIn members fixtures)
  | [], _, _, _ => by simp [NothingRevivedIn]
  | (key, value) :: rest, fixtures, hmembers, hfixtures => by
    have hlayers : ∀ layer ∈ fixtures.filterMap (get? key), layer.UniqueKeys := by
      intro layer hmem
      obtain ⟨fixture, hfixture, hfound⟩ := List.mem_filterMap.mp hmem
      exact (hfixtures fixture hfixture).2.of_get? hfound
    rw [NothingRevivedIn, ← overlaid_laid_iff value _ hmembers.1 hlayers,
      ← members_laid_iff rest fixtures hmembers.2 hfixtures]
    constructor
    · intro hall
      exact ⟨hall key value List.mem_cons_self,
        fun other held hmem => hall other held (List.mem_cons_of_mem _ hmem)⟩
    · rintro ⟨hfirst, hrest⟩ other held hmem
      rcases List.mem_cons.mp hmem with heq | hmem
      · cases heq
        exact hfirst
      · exact hrest other held hmem

end

/-- Merging objects over definitions one after the other, and merging what they give together over
the definitions, is the same just if nothing of the definitions is revived. -/
theorem merge_foldl_iff {definitions : Members}
    (hdefinitions : (Json.object definitions).UniqueKeys)
    {fixtures : List Members} (unique : ∀ fixture ∈ fixtures, (Json.object fixture).UniqueKeys) :
    merge definitions (fixtures.foldl merge []) = fixtures.foldl merge definitions ↔
      NothingRevivedIn definitions fixtures := by
  rw [merge_foldl_iff_members hdefinitions unique]
  exact members_laid_iff definitions fixtures hdefinitions.2 unique

end PageCheck.Members
