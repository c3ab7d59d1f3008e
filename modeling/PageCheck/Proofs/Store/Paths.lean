import PageCheck.Context
import PageCheck.Proofs.Store.Merge

/-!
# Merges along paths of keys

A path of keys leads from an object into the objects inside it. What a merge holds at a path is the
matter of the overlay as far as the overlay reaches along it. Where it ends on the way with a value
that is no object, nothing is left of the base; where it ends with an object that lacks the next
key, the base is as it was. Merging what was merged already changes nothing, on either side.
-/

namespace PageCheck

/-- There is nothing or something that is no object, or there is an object. -/
theorem Json.plain_or_object (value : Option Json) :
    value.bind Json.members? = none ∨ ∃ members, value = some (.object members) := by
  cases value with
  | none => exact .inl rfl
  | some value =>
    cases value with
    | object members => exact .inr ⟨members, rfl⟩
    | _ => exact .inl rfl

namespace Json

/-- What stands at a path of keys, one object inside the other. -/
def at? : List String → Json → Option Json
  | [], value => some value
  | key :: rest, value => (value.get? key).bind (at? rest)

/-- A path is followed part by part. -/
theorem at?_append (value : Json) (first second : List String) :
    value.at? (first ++ second) = (value.at? first).bind (at? second) := by
  induction first generalizing value with
  | nil => rfl
  | cons key rest ih =>
    rw [List.cons_append, at?, at?]
    cases value.get? key with
    | none => rfl
    | some inner => exact ih inner

/-- No path leads into what is no object. -/
theorem at?_of_plain {value : Json} (plain : value.members? = none) {path : List String}
    (further : path ≠ []) : value.at? path = none := by
  cases path with
  | nil => exact absurd rfl further
  | cons key rest =>
    cases value with
    | object members => cases plain
    | _ => rfl

/-- What stands at a path of keys in a value that repeats none repeats none either. -/
theorem UniqueKeys.at? {value held : Json} (unique : value.UniqueKeys) {path : List String}
    (found : value.at? path = some held) : held.UniqueKeys := by
  induction path generalizing value with
  | nil =>
    cases found
    exact unique
  | cons key rest ih =>
    obtain ⟨inner, hinner, hrest⟩ := Option.bind_eq_some_iff.mp found
    cases value with
    | object members => exact ih (unique.2.of_get? hinner) hrest
    | _ => cases hinner

/-- Along a path a value reaches up to the longest beginning of the path where it has something. -/
structure ReachesUpTo (value : Json) (path beginning : List String) (held : Json) : Prop where
  /-- It is a beginning of the path. -/
  isBeginning : beginning <+: path
  /-- This is what stands there. -/
  found : value.at? beginning = some held
  /-- There is nothing at a longer one. -/
  longest : ∀ longer, longer <+: path → value.at? longer ≠ none →
    longer.length ≤ beginning.length

/-- Along every path a value reaches up to some beginning. -/
theorem exists_reachesUpTo (value : Json) (path : List String) :
    ∃ beginning held, value.ReachesUpTo path beginning held := by
  induction path generalizing value with
  | nil =>
    refine ⟨[], value, List.nil_prefix, rfl, ?_⟩
    intro longer isBeginning _
    exact isBeginning.length_le
  | cons key rest ih =>
    cases hinner : value.get? key with
    | none =>
      refine ⟨[], value, List.nil_prefix, rfl, ?_⟩
      intro longer isBeginning hfound
      rcases List.prefix_cons_iff.mp isBeginning with rfl | ⟨further, rfl, _⟩
      · exact Nat.le_refl _
      · rw [at?, hinner] at hfound
        exact absurd rfl hfound
    | some inner =>
      obtain ⟨beginning, held, hbeginning, hheld, hlongest⟩ := ih inner
      refine ⟨key :: beginning, held, (List.prefix_cons_inj key).mpr hbeginning, ?_, ?_⟩
      · rw [at?, hinner]
        exact hheld
      · intro longer isBeginning hfound
        rcases List.prefix_cons_iff.mp isBeginning with rfl | ⟨further, rfl, hfurther⟩
        · exact Nat.zero_le _
        · rw [at?, hinner] at hfound
          exact Nat.succ_le_succ (hlongest further hfurther hfound)

/-- A value that reaches an object does not end before with something else. -/
theorem ReachesUpTo.not_plain {value held : Json} {path beginning : List String}
    (reaches : value.ReachesUpTo path beginning held) (isObject : held.members? ≠ none)
    {shorter : List String} (isBeginning : shorter <+: path) {other : Json}
    (found : value.at? shorter = some other) : other.members? ≠ none := by
  intro plain
  have hshorter : shorter <+: beginning := List.prefix_of_prefix_length_le isBeginning
    reaches.isBeginning (reaches.longest shorter isBeginning (by simp [found]))
  obtain ⟨rest, rfl⟩ := hshorter
  have hheld := reaches.found
  rw [at?_append, found, Option.bind_some] at hheld
  cases rest with
  | nil =>
    cases hheld
    exact isObject plain
  | cons key rest =>
    rw [at?_of_plain plain (List.cons_ne_nil key rest)] at hheld
    cases hheld

mutual

/-- What holds of every value that is no object, and of an object without repeated keys as soon as
it holds of what its keys hold, holds of every value without repeated keys. -/
theorem uniqueKeys_induction {motive : (value : Json) → value.UniqueKeys → Prop}
    (plain : ∀ value unique, value.members? = none → motive value unique)
    (object : ∀ members (unique : (Json.object members).UniqueKeys),
      (∀ key value (found : Members.get? key members = some value),
        motive value (unique.2.of_get? found)) → motive (.object members) unique) :
    ∀ (value : Json) (unique : value.UniqueKeys), motive value unique
  | .object members, unique => object members unique fun _ _ found =>
    uniqueKeys_induction_members plain object members unique.2 (Members.mem_of_get?_eq_some found)
  | .null, unique | .bool _, unique | .number _, unique | .string _, unique
  | .array _, unique => plain _ unique rfl

/-- `uniqueKeys_induction` for the members of an object. -/
theorem uniqueKeys_induction_members {motive : (value : Json) → value.UniqueKeys → Prop}
    (plain : ∀ value unique, value.members? = none → motive value unique)
    (object : ∀ members (unique : (Json.object members).UniqueKeys),
      (∀ key value (found : Members.get? key members = some value),
        motive value (unique.2.of_get? found)) → motive (.object members) unique)
    {key : String} {value : Json} :
    ∀ (members : Members) (unique : UniqueKeysMembers members) (mem : (key, value) ∈ members),
      motive value (unique.of_mem mem)
  | (_, first) :: rest, unique, mem => by
    rcases List.mem_cons.mp mem with heq | hmem
    · cases heq
      exact uniqueKeys_induction plain object value unique.1
    · exact uniqueKeys_induction_members plain object rest unique.2 hmem

end

end Json

namespace Members

/-- What stands at a path of keys in an object. -/
def at? (path : List String) (members : Members) : Option Json := (Json.object members).at? path

/-! ### One value over another -/

/-- A path with a further key leads nowhere from what is no object. -/
theorem bind_at?_of_plain {value : Option Json} (plain : value.bind Json.members? = none)
    (key : String) (rest : List String) : value.bind (Json.at? (key :: rest)) = none := by
  cases value with
  | none => rfl
  | some value => exact Json.at?_of_plain plain (List.cons_ne_nil key rest)

/-- A path into a merge leads to what one value laid over the other has at the rest of it. -/
theorem at?_overlaid_cons {below above : Members} (unique : above.keys.Nodup) (key : String)
    (rest : List String) :
    (overlaid (some (.object below)) (some (.object above))).bind (Json.at? (key :: rest)) =
      (overlaid (get? key below) (get? key above)).bind (Json.at? rest) := by
  rw [← get?_merge unique]
  rfl

/-- Where the overlay has something, it is laid over what the base has there. -/
theorem at?_overlaid_of_some (below : Option Json) {above : Option Json} {path : List String}
    {value : Json} (unique : ∀ top, above = some top → top.UniqueKeys)
    (found : above.bind (Json.at? path) = some value) :
    (overlaid below above).bind (Json.at? path) =
      some (mergeValue (below.bind (Json.at? path)) value) := by
  induction path generalizing below above with
  | nil =>
    cases above with
    | none => cases found
    | some top =>
      cases found
      cases below <;> rfl
  | cons key rest ih =>
    rcases Json.plain_or_object above with hplain | ⟨above, rfl⟩
    · rw [bind_at?_of_plain hplain] at found
      cases found
    rcases Json.plain_or_object below with hplain | ⟨below, rfl⟩
    · -- Nothing of the base is below the path.
      rw [overlaid_over_plain hplain (Option.some_ne_none _), bind_at?_of_plain hplain,
        mergeValue_over_plain rfl]
      exact found
    · have hunique := unique _ rfl
      rw [at?_overlaid_cons hunique.1]
      exact ih _ (fun top htop => hunique.2.of_get? htop) found

/-- Where the overlay ends on the way with a value that is no object, there is nothing. -/
theorem at?_overlaid_of_plain (below : Option Json) {above : Option Json}
    {path beginning : List String} {held : Json} (unique : ∀ top, above = some top → top.UniqueKeys)
    (isBeginning : beginning <+: path) (shorter : beginning ≠ path)
    (found : above.bind (Json.at? beginning) = some held) (plain : held.members? = none) :
    (overlaid below above).bind (Json.at? path) = none := by
  obtain ⟨rest, rfl⟩ := isBeginning
  have hrest : rest ≠ [] := by
    rintro rfl
    exact shorter (List.append_nil beginning).symm
  have hheld := at?_overlaid_of_some below unique found
  rw [mergeValue_of_members?_eq_none plain] at hheld
  obtain ⟨top, htop, hbeginning⟩ := Option.bind_eq_some_iff.mp hheld
  rw [htop, Option.bind_some, Json.at?_append, hbeginning, Option.bind_some,
    Json.at?_of_plain plain hrest]

/-- Where the overlay has nothing and ends on the way with no other value than an object, the base
is as it was. -/
theorem at?_overlaid_of_none (below : Option Json) {above : Option Json} {path : List String}
    (unique : ∀ top, above = some top → top.UniqueKeys)
    (absent : above.bind (Json.at? path) = none)
    (objects : ∀ shorter, shorter <+: path → ∀ held,
      above.bind (Json.at? shorter) = some held → held.members? ≠ none) :
    (overlaid below above).bind (Json.at? path) = below.bind (Json.at? path) := by
  induction path generalizing below above with
  | nil =>
    cases above with
    | none => rfl
    | some top => cases absent
  | cons key rest ih =>
    cases above with
    | none => rfl
    | some top =>
      have htop := objects [] List.nil_prefix top rfl
      rcases Json.plain_or_object (some top) with hplain | ⟨above, hobject⟩
      · exact absurd hplain htop
      cases hobject
      rcases Json.plain_or_object below with hplain | ⟨below, rfl⟩
      · rw [overlaid_over_plain hplain (Option.some_ne_none _), bind_at?_of_plain hplain]
        exact absent
      · have hunique := unique _ rfl
        rw [at?_overlaid_cons hunique.1]
        refine ih _ (fun top htop => hunique.2.of_get? htop) absent ?_
        intro shorter isBeginning held hfound
        exact objects (key :: shorter) ((List.prefix_cons_inj key).mpr isBeginning) held hfound

/-! ### Merging again -/

/-- Keys that are there already add nothing. -/
@[simp]
theorem joinKeys_self (keys : List String) : joinKeys keys keys = keys := by
  simp [joinKeys]

/-- Objects without repeated keys that were merged are equal if their keys and the values under
them are. -/
theorem merge_eq_of_get? {base overlay other : Members} (hbase : (Json.object base).UniqueKeys)
    (hoverlay : (Json.object overlay).UniqueKeys)
    (hkeys : joinKeys base.keys overlay.keys = other.keys)
    (hget : ∀ key, overlaid (get? key base) (get? key overlay) = get? key other) :
    merge base overlay = other := by
  refine ext_of_nodup (uniqueKeys_merge hbase hoverlay).1 ?_ ?_
  · rw [keys_merge hoverlay.1, hkeys]
  · intro key
    rw [get?_merge hoverlay.1, hget]

/-- Merging an object over what it was merged over already changes nothing, if laying the values of
its keys over what they were laid over already changes nothing. -/
theorem merge_again_of_get? {base overlay : Members} (hbase : (Json.object base).UniqueKeys)
    (hoverlay : (Json.object overlay).UniqueKeys)
    (again : ∀ key value, get? key overlay = some value →
      mergeValue (some (mergeValue (get? key base) value)) value =
        mergeValue (get? key base) value) :
    merge (merge base overlay) overlay = merge base overlay := by
  refine merge_eq_of_get? (uniqueKeys_merge hbase hoverlay) hoverlay ?_ ?_
  · rw [keys_merge hoverlay.1, joinKeys_assoc, joinKeys_self]
  · intro key
    rw [get?_merge hoverlay.1]
    cases hvalue : get? key overlay with
    | none => rfl
    | some value => exact congrArg some (again key value hvalue)

/-- Laying a value over what it was laid over already changes nothing. -/
theorem mergeValue_again {value : Json} (unique : value.UniqueKeys) :
    ∀ below : Option Json, (∀ held, below = some held → held.UniqueKeys) →
      mergeValue (some (mergeValue below value)) value = mergeValue below value := by
  induction value, unique using Json.uniqueKeys_induction with
  | plain value _ plain =>
    intro below _
    rw [mergeValue_of_members?_eq_none plain, mergeValue_of_members?_eq_none plain]
  | object above hunique ih =>
    intro below hbelow
    have again (base : Members) (hbase : (Json.object base).UniqueKeys) :
        merge (merge base above) above = merge base above :=
      merge_again_of_get? hbase hunique fun key value found =>
        ih key value found (get? key base) fun _ hheld => hbase.2.of_get? hheld
    rcases Json.plain_or_object below with hplain | ⟨below, rfl⟩
    · -- The value meets itself.
      have hself := again [] ⟨List.nodup_nil, trivial⟩
      rw [merge_nil_left hunique.1] at hself
      rw [mergeValue_over_plain hplain]
      exact congrArg Json.object hself
    · exact congrArg Json.object (again below (hbelow _ rfl))

/-- Laying a value over itself changes nothing. -/
theorem mergeValue_self {value : Json} (unique : value.UniqueKeys) :
    mergeValue (some value) value = value := by
  have hagain := mergeValue_again unique none (fun _ hheld => by cases hheld)
  have hnone : mergeValue none value = value := mergeValue_over_plain rfl value
  rwa [hnone] at hagain

/-- Merging an object over what it was merged over already changes nothing. -/
theorem merge_again {base overlay : Members} (hbase : (Json.object base).UniqueKeys)
    (hoverlay : (Json.object overlay).UniqueKeys) :
    merge (merge base overlay) overlay = merge base overlay :=
  merge_again_of_get? hbase hoverlay fun key _ found =>
    mergeValue_again (hoverlay.2.of_get? found) (get? key base) fun _ hheld =>
      hbase.2.of_get? hheld

/-- Merging under an object what it was merged under already changes nothing, if that is so under
each of its keys. Under a key of the base alone the value meets itself. -/
theorem merge_under_of_get? {base overlay : Members} (hbase : (Json.object base).UniqueKeys)
    (hoverlay : (Json.object overlay).UniqueKeys)
    (under : ∀ key value, get? key overlay = some value →
      mergeValue (get? key base) (mergeValue (get? key base) value) =
        mergeValue (get? key base) value) :
    merge base (merge base overlay) = merge base overlay := by
  refine merge_eq_of_get? hbase (uniqueKeys_merge hbase hoverlay) ?_ ?_
  · rw [keys_merge hoverlay.1, ← joinKeys_assoc, joinKeys_self]
  · intro key
    rw [get?_merge hoverlay.1]
    cases hvalue : get? key overlay with
    | some value => exact congrArg some (under key value hvalue)
    | none =>
      rw [overlaid]
      cases hheld : get? key base with
      | none => rfl
      | some held => exact congrArg some (mergeValue_self (hbase.2.of_get? hheld))

/-- Laying what was laid over a value over it once more changes nothing. -/
theorem mergeValue_under {value : Json} (unique : value.UniqueKeys) :
    ∀ below : Option Json, (∀ held, below = some held → held.UniqueKeys) →
      mergeValue below (mergeValue below value) = mergeValue below value := by
  induction value, unique using Json.uniqueKeys_induction with
  | plain value _ plain =>
    intro below _
    rw [mergeValue_of_members?_eq_none plain, mergeValue_of_members?_eq_none plain]
  | object above hunique ih =>
    intro below hbelow
    rcases Json.plain_or_object below with hplain | ⟨below, rfl⟩
    · rw [mergeValue_over_plain hplain, mergeValue_over_plain hplain]
    · have hbase := hbelow _ rfl
      exact congrArg Json.object (merge_under_of_get? hbase hunique fun key value found =>
        ih key value found (get? key below) fun _ hheld => hbase.2.of_get? hheld)

/-- Merging under an object what it was merged under already changes nothing. -/
theorem merge_under {base overlay : Members} (hbase : (Json.object base).UniqueKeys)
    (hoverlay : (Json.object overlay).UniqueKeys) :
    merge base (merge base overlay) = merge base overlay :=
  merge_under_of_get? hbase hoverlay fun key _ found =>
    mergeValue_under (hoverlay.2.of_get? found) (get? key base) fun _ hheld =>
      hbase.2.of_get? hheld

/-! ### What a merge computes -/

/-- What an object laid over a base has to be along every path of keys. -/
structure IsMerge (base overlay merged : Members) : Prop where
  /-- Where both have an object, there is the merge of the two, whose keys are those of the base
  followed by the new ones of the overlay. -/
  both : ∀ path below above, base.at? path = some (.object below) →
    overlay.at? path = some (.object above) →
    merged.at? path = some (.object (merge below above)) ∧
      keys (merge below above) = keys below ++ (keys above).filter fun key => key ∉ keys below
  /-- Where the overlay has a value and not both have an object, there is that value. -/
  above : ∀ path value, overlay.at? path = some value →
    ((base.at? path).bind Json.members? = none ∨ value.members? = none) →
    merged.at? path = some value
  /-- Where the overlay has nothing and reaches up to a value that is no object, there is
  nothing. -/
  cut : ∀ path beginning held, overlay.at? path = none →
    (Json.object overlay).ReachesUpTo path beginning held → held.members? = none →
    merged.at? path = none
  /-- Where the overlay has nothing and reaches up to an object, there is what the base has. -/
  below : ∀ path beginning held, overlay.at? path = none →
    (Json.object overlay).ReachesUpTo path beginning held → held.members? ≠ none →
    merged.at? path = base.at? path

/-- A merge is what it has to be along every path. -/
theorem isMerge_merge {base overlay : Members} (hoverlay : (Json.object overlay).UniqueKeys) :
    IsMerge base overlay (merge base overlay) := by
  have hunique : ∀ top, some (Json.object overlay) = some top → top.UniqueKeys := by
    rintro _ ⟨⟩
    exact hoverlay
  have hpresent : ∀ path value, overlay.at? path = some value →
      (merge base overlay).at? path = some (mergeValue (base.at? path) value) :=
    fun _ _ found => at?_overlaid_of_some (some (.object base)) hunique found
  refine ⟨?_, ?_, ?_, ?_⟩
  · intro path below above hbelow habove
    have hunique : (Json.object above).UniqueKeys := hoverlay.at? habove
    refine ⟨?_, keys_merge hunique.1 below⟩
    rw [hpresent path _ habove, hbelow]
    rfl
  · intro path value found hplain
    rw [hpresent path value found]
    rcases hplain with hbelow | hvalue
    · rw [mergeValue_over_plain hbelow]
    · rw [mergeValue_of_members?_eq_none hvalue]
  · intro path beginning held absent reaches plain
    refine at?_overlaid_of_plain (some (.object base)) hunique reaches.isBeginning ?_
      reaches.found plain
    rintro rfl
    exact absurd (absent.symm.trans reaches.found) (by simp)
  · intro path beginning held absent reaches isObject
    exact at?_overlaid_of_none (some (.object base)) hunique absent
      fun _ isBeginning _ found => reaches.not_plain isObject isBeginning found

/-- **What merging computes.** A merge is what it has to be along every path, along which the overlay
always reaches up to somewhere. Merging with nothing, merging again and merging under again change
nothing. So loading definitions twice in a row, over or under those that are there, is the same as
loading them once, and loading them under leaves every value that is there and no object. -/
theorem merge_along_paths {base overlay : Members} (hbase : (Json.object base).UniqueKeys)
    (hoverlay : (Json.object overlay).UniqueKeys) :
    (IsMerge base overlay (merge base overlay) ∧
      ∀ path, ∃ beginning held, (Json.object overlay).ReachesUpTo path beginning held) ∧
    merge base [] = base ∧ merge [] overlay = overlay ∧
    merge (merge base overlay) overlay = merge base overlay ∧
    merge base (merge base overlay) = merge base overlay ∧
    ∀ context : Context, context.data = base →
      (context.load overlay).load overlay = context.load overlay ∧
      (context.loadBase overlay).loadBase overlay = context.loadBase overlay ∧
      ∀ path leaf, at? path context.data = some leaf → leaf.members? = none →
        at? path (context.loadBase overlay).data = some leaf := by
  refine ⟨⟨isMerge_merge hoverlay, Json.exists_reachesUpTo _⟩, merge_nil_right base,
    merge_nil_left hoverlay.1, merge_again hbase hoverlay, merge_under hbase hoverlay, ?_⟩
  rintro context rfl
  refine ⟨?_, ?_, ?_⟩
  · rw [Context.load, Context.load, merge_again hbase hoverlay]
  · rw [Context.loadBase, Context.loadBase, merge_under hoverlay hbase]
  · intro path leaf found plain
    exact (isMerge_merge hbase).above path leaf found (.inr plain)

/-- A home page and a log-in with a user. -/
def site : Members :=
  [("home", .string "/"), ("login", .object [("user", .string "ada"), ("code", Json.ofNat 1)])]

/-- An object in the place of a text, a text in the place of an object's member, and a new key. -/
def renewed : Members :=
  [("login", .object [("user", .string "bob")]), ("home", .object [("start", .string "/")]),
    ("cart", .null)]

/-- Objects that replace texts and texts that replace members. -/
theorem merge_along_paths_site :
    (Json.object site).UniqueKeys ∧ (Json.object renewed).UniqueKeys ∧
      (merge site renewed).keys = ["home", "login", "cart"] ∧
      at? ["login", "user"] (merge site renewed) = some (.string "bob") ∧
      merge (merge site renewed) renewed = merge site renewed := by
  have hsite : (Json.object site).UniqueKeys := by
    simp [site, Json.UniqueKeys, Json.UniqueKeysMembers, Json.ofNat, Members.keys]
  have hrenewed : (Json.object renewed).UniqueKeys := by
    simp [renewed, Json.UniqueKeys, Json.UniqueKeysMembers, Members.keys]
  obtain ⟨⟨hmerge, -⟩, -, -, hagain, -⟩ := merge_along_paths hsite hrenewed
  refine ⟨hsite, hrenewed, ?_, ?_, hagain⟩
  · exact (hmerge.both [] site renewed rfl rfl).2
  · exact hmerge.above ["login", "user"] (.string "bob") rfl (.inr rfl)

end Members

end PageCheck
