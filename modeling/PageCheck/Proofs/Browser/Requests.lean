import Mathlib.Data.List.Basic
import PageCheck.Browser.WebDriver
import PageCheck.Proofs.Url.Endings

/-!
# Requests without a body

What is asked of a remote browser about cookies, attributes and properties is told by the method and
the address of the request alone, and the names in it are written into the path as they are. How a
server understands such requests is laid down here: the path of the session comes first, and the
names in the segments after it are decoded. The main statement says for which names a request is
understood as what it was sent for, and that requests with such names are different.
-/

namespace PageCheck.WebDriver

open Http (Method Request)
open Unicode (notMem_intercalate splitOnChar splitOnChar_intercalate)
open Url (Carried Clean IsBase IsDots Kept PathSoFar addSegments addSegments_eq_addInner
  addSegments_plain carried_of_last clean_addSegments cutTail cutTail_of_kept parse_below
  percentDecode percentDecode_written segmentsAfter segmentsAfter_intercalate segmentsAfter_kept
  segmentsAfter_of_kept segmentsAfter_unbroken signs trimmedEnd utf8 utf8Text?
  utf8Text?_eq_some_iff withoutBreaks written)

/-! ### Errands -/

/-- What is asked of a remote browser by the method and the address of a request alone. -/
inductive Errand
  | deleteCookie (name : String)
  | deleteAllCookies
  | quit
  | attribute (element : Element) (name : String)
  | property (element : Element) (name : String)
  | text (element : Element)
  | displayed (element : Element)
deriving Repr, DecidableEq

namespace Errand

/-- The call of an errand. -/
def call : Errand → Call
  | deleteCookie name => .ofCommand (.deleteCookie name)
  | deleteAllCookies => .ofCommand .deleteAllCookies
  | quit => .quit
  | «attribute» element name => .ofCommand (.attribute element name)
  | property element name => .ofCommand (.property element name)
  | text element => .ofCommand (.text element)
  | displayed element => .ofCommand (.displayed element)

/-- The element that it is about. -/
def element? : Errand → Option Element
  | «attribute» element _ | property element _ | text element | displayed element => some element
  | _ => none

/-- The cookie, attribute or property that it names. -/
def name? : Errand → Option String
  | deleteCookie name | «attribute» _ name | property _ name => some name
  | _ => none

/-- Whether its element and its name have a property. -/
def All (holds : List Char → Prop) (errand : Errand) : Prop :=
  (∀ element ∈ errand.element?, holds element.toList) ∧ ∀ name ∈ errand.name?, holds name.toList

/-- The errand with its element and its name changed. -/
def map (change : String → String) : Errand → Errand
  | deleteCookie name => deleteCookie (change name)
  | deleteAllCookies => deleteAllCookies
  | quit => quit
  | «attribute» element name => «attribute» (change element) (change name)
  | property element name => property (change element) (change name)
  | text element => text (change element)
  | displayed element => displayed (change element)

/-- The errand with its element and its name changed, if both can be. -/
def change? (change : String → Option String) : Errand → Option Errand
  | deleteCookie name => (change name).map deleteCookie
  | deleteAllCookies => some deleteAllCookies
  | quit => some quit
  | «attribute» element name => do return «attribute» (← change element) (← change name)
  | property element name => do return property (← change element) (← change name)
  | text element => (change element).map text
  | displayed element => (change element).map displayed

/-- The segments of its path after that of the session. -/
def segments : Errand → List String
  | deleteCookie name => ["cookie", name]
  | deleteAllCookies => ["cookie"]
  | quit => []
  | «attribute» element name => ["element", element, "attribute", name]
  | property element name => ["element", element, "property", name]
  | text element => ["element", element, "text"]
  | displayed element => ["element", element, "displayed"]

/-- The words in paths that are no names. -/
def words : List String := ["cookie", "element", "attribute", "property", "text", "displayed"]

/-- The errand that a method and segments stand for. A slash after the path of the session makes no
difference. -/
def ofSegments? : Method → List String → Option Errand
  | .delete, [] | .delete, [""] => some quit
  | .delete, ["cookie"] => some deleteAllCookies
  | .delete, ["cookie", name] => some (deleteCookie name)
  | .get, ["element", element, "attribute", name] => some («attribute» element name)
  | .get, ["element", element, "property", name] => some (property element name)
  | .get, ["element", element, "text"] => some (text element)
  | .get, ["element", element, "displayed"] => some (displayed element)
  | _, _ => none

/-- An errand is what its own method and segments stand for. -/
theorem ofSegments?_segments (errand : Errand) :
    ofSegments? errand.call.method errand.segments = some errand := by
  cases errand <;> rfl

/-- Segments that stand for an errand are its own, unless it ends the session. -/
theorem segments_of_ofSegments? {method : Method} {segments : List String} {errand : Errand}
    (stands : ofSegments? method segments = some errand) :
    errand = quit ∨ segments = errand.segments := by
  rw [ofSegments?.eq_def] at stands
  split at stands
  all_goals cases stands <;> simp [Errand.segments]

/-- What its path has after that of the session and a slash. -/
def more (errand : Errand) : String :=
  String.ofList (['/'].intercalate (errand.segments.map String.toList))

/-- The path of an errand is made of its segments, unless it has none. -/
theorem path_eq {errand : Errand} (other : errand ≠ quit) :
    errand.call.path = "/" ++ errand.more := by
  rw [← String.toList_inj]
  cases errand with
  | quit => exact absurd rfl other
  | _ => simp [call, Call.ofCommand, delete, get, elementPath, more, segments,
      List.intercalate_cons_cons]

end Errand

/-! ### Messages -/

/-- What a server sees of a request. -/
structure Message where
  /-- What is wanted. -/
  method : Method
  /-- The path and the query; without them the request is not sent. -/
  target : Option String
  /-- The body. -/
  body : String
deriving Repr, DecidableEq

/-- The path and the query that a server sees of an address. -/
def target? (address : String) : Option String := Request.target? ⟨.get, address, none⟩

/-- What the server sees of the request for an errand. -/
def sent (base : String) (errand : Errand) : Message :=
  let request := errand.call.request base
  ⟨request.method, request.target?, request.bodyText⟩

/-- The errands are sent without a body. -/
theorem sent_eq (base : String) (errand : Errand) : sent base errand =
    ⟨errand.call.method, target? (base ++ errand.call.path), ""⟩ := by
  cases errand <;> rfl

/-- The segments of a path, without the query. -/
def segmentsOf (target : String) : List String :=
  (splitOnChar '/' ((target.toList.takeWhile (· != '?')).drop 1)).map String.ofList

/-- The segments that a path has after that of the session. -/
def below? (base : String) (message : Message) : Option (List String) := do
  let session ← target? (base ++ "/")
  let target ← message.target
  (segmentsOf target).dropPrefix? (segmentsOf session).dropLast

/-- The errand of a message, its names as they stand in the path. -/
def routed (base : String) (message : Message) : Option Errand := do
  Errand.ofSegments? message.method (← below? base message)

/-- The text that a segment stands for. -/
def decoded? (segment : String) : Option String :=
  (utf8Text? (percentDecode segment.toList)).map String.ofList

/-- What a server understands of a message. -/
def understood (base : String) (message : Message) : Option Errand := do
  (← routed base message).change? decoded?

/-- A name as it is written into a path. -/
def spelled (name : String) : String := String.ofList (written name.toList)

/-! ### Paths of sessions -/

/-- The texts of a path that has been read so far. -/
def texts (path : PathSoFar) : List String := path.segments.reverse.map String.ofList

/-- The text of a path with segments. -/
def pathText (segments : List String) : String :=
  String.ofList ('/' :: ['/'].intercalate (segments.map String.toList))

/-- The text of a path of the web is that of its segments. -/
theorem ofList_text (port : Nat) (path : PathSoFar) :
    String.ofList (path.text (.web port)) = pathText (texts path) := by
  have hsame : String.toList ∘ String.ofList = id := funext fun _ => String.toList_ofList
  rw [pathText, texts, List.map_map, hsame, List.map_id]
  rfl

/-- The last of the texts of a path is its first segment in reverse. -/
theorem last_of_texts {path : PathSoFar} {front : List String} {last : String}
    (ends : texts path = front ++ [last]) :
    ∃ before final, path.segments = final :: before ∧ String.ofList final = last := by
  rw [texts] at ends
  cases hsegments : path.segments with
  | nil => simp [hsegments] at ends
  | cons final before =>
    rw [hsegments, List.reverse_cons, List.map_append] at ends
    exact ⟨before, final, rfl, List.singleton_inj.mp (List.append_inj' ends rfl).2⟩

/-- Segments are found again in the path that they make. -/
theorem segmentsOf_path {segments : List (List Char)} (some_segment : segments ≠ [])
    (clean : ∀ each ∈ segments, Clean each) (query : Option (List Char)) :
    segmentsOf (String.ofList ('/' :: ['/'].intercalate segments ++
      (query.map ('?' :: ·)).getD [])) = segments.map String.ofList := by
  have hpath : ∀ c ∈ '/' :: ['/'].intercalate segments, (c != '?') = true := by
    refine List.forall_mem_cons.mpr ⟨rfl, fun c hc => bne_iff_ne.mpr ?_⟩
    rintro rfl
    exact notMem_intercalate (by decide) (fun each h => (clean each h).2) hc
  have hquery : ((query.map ('?' :: ·)).getD []).takeWhile (· != '?') = [] := by
    cases query with
    | none => rfl
    | some query => rfl
  rw [segmentsOf, String.toList_ofList, List.takeWhile_append_of_pos hpath, hquery, List.append_nil,
    List.drop_succ_cons, List.drop_zero,
    splitOnChar_intercalate some_segment fun each h => (clean each h).1]

/-- How the address of a session and those below it are read. -/
structure Rooted (base : String) (port : Nat) (root : PathSoFar) : Prop where
  /-- The address of the session has the segments of the session, and perhaps an empty one. -/
  itself : ∃ target, target? base = some target ∧
    (segmentsOf target = texts root ∨ segmentsOf target = texts root ++ [""])
  /-- The addresses below add to the segments of the session, and nothing else unless they are
  cut. -/
  below : ∀ more : String, ∃ target, target? (base ++ "/" ++ more) = some target ∧
    segmentsOf target = texts (addSegments (.web port) root (segmentsAfter port more.toList)) ∧
    ((cutTail (withoutBreaks (trimmedEnd more.toList))).2 = [] → target = String.ofList
      ((addSegments (.web port) root (segmentsAfter port more.toList)).text (.web port)))

section

variable {base : String} {port : Nat} {root : PathSoFar}

/-- The address of a session has a path that those below it begin with. -/
theorem rooted (isBase : IsBase base) : ∃ port root, Rooted base port root := by
  obtain ⟨url, port, root, below, hparse, hleads, hbelow⟩ := parse_below isBase
  refine ⟨port, root, ?_, fun more => ?_⟩
  · obtain ⟨own, hsome, hclean, hown, hpath⟩ := hleads.itself
    have htarget : target? base = some (String.ofList ('/' :: ['/'].intercalate own.reverse ++
        (url.query.map ('?' :: ·)).getD [])) := by
      rw [target?, Request.target?, hparse, ← hpath]
    refine ⟨_, htarget, ?_⟩
    rw [segmentsOf_path (by simpa using hsome) (by simpa using hclean)]
    rcases hown with rfl | rfl
    · exact .inl rfl
    · exact .inr (by simp [texts])
  · obtain ⟨further, hfurther, hpath, hquery⟩ := hbelow more
    obtain ⟨hsegments, hunbroken⟩ := segmentsAfter_unbroken port more.toList
    have hsome := (addSegments_eq_addInner port root hsegments).1
    have hclean := clean_addSegments port hleads.clean hsegments hunbroken
    have htarget : target? (base ++ "/" ++ more) = some (String.ofList (further.path ++
        (further.query.map ('?' :: ·)).getD [])) := by
      rw [target?, Request.target?, hfurther]
    rw [hleads.below, ← segmentsAfter] at hpath
    refine ⟨_, htarget, ?_, fun hnone => ?_⟩
    · rw [hpath]
      exact segmentsOf_path (by simpa using hsome) (by simpa using hclean) further.query
    · rw [hpath, hquery hnone, Option.map_none, Option.getD_none, List.append_nil]

/-- What a message has below the session is what follows the segments of the session. -/
theorem Rooted.below?_eq_some_iff (at_root : Rooted base port root) {message : Message}
    {further : List String} : below? base message = some further ↔
      ∃ target, message.target = some target ∧ segmentsOf target = texts root ++ further := by
  obtain ⟨session, hsession, hsegments, -⟩ := at_root.below ""
  have hroot : (segmentsOf session).dropLast = texts root := by
    have hempty : Kept [] := ⟨nofun, rfl, by decide⟩
    have hplain : ∀ each ∈ [[]], ¬ IsDots (written each) := by decide
    rw [hsegments, String.toList_empty, segmentsAfter_kept port hempty, texts,
      addSegments_plain (List.cons_ne_nil _ _) hplain]
    simp [texts]
  rw [String.append_empty] at hsession
  rw [below?, hsession]
  cases htarget : message.target with
  | none => simp
  | some target => simp [hroot, List.dropPrefix?_eq_some_iff]

/-- The request for an errand is read below the session. -/
theorem Rooted.target_sent (at_root : Rooted base port root) {errand : Errand}
    (other : errand ≠ .quit) : ∃ target, (sent base errand).target = some target ∧
      segmentsOf target =
        texts (addSegments (.web port) root (segmentsAfter port errand.more.toList)) ∧
      ((cutTail (withoutBreaks (trimmedEnd errand.more.toList))).2 = [] → target = String.ofList
        ((addSegments (.web port) root (segmentsAfter port errand.more.toList)).text
          (.web port))) := by
  obtain ⟨target, htarget, hsegments⟩ := at_root.below errand.more
  rw [String.append_assoc, ← Errand.path_eq other] at htarget
  exact ⟨target, htarget, hsegments⟩

/-! ### Names that are kept -/

/-- The words in paths are kept and are written as they are. -/
theorem kept_words : ∀ word ∈ Errand.words, Kept word.toList ∧ spelled word = word := by
  decide

/-- The segments of an errand are kept if its names are. -/
theorem kept_segments {errand : Errand} (kept : errand.All Kept) :
    ∀ text ∈ errand.segments, Kept text.toList := by
  obtain ⟨helement, hname⟩ := kept
  have hwords := fun word h => (kept_words word h).1
  simp only [Errand.words, List.forall_mem_cons] at hwords
  cases errand <;> simp_all [Errand.segments, Errand.element?, Errand.name?]

/-- The segments of an errand are written as those of the errand with its names as they are
written. -/
theorem segments_map_spelled (errand : Errand) :
    (errand.map spelled).segments = errand.segments.map spelled := by
  have hwords := fun word h => (kept_words word h).2
  simp only [Errand.words, List.forall_mem_cons] at hwords
  cases errand <;> simp [Errand.segments, Errand.map, hwords]

/-- The segments of an errand with names that are kept follow those of the session as they are
written. -/
theorem texts_of_kept (port : Nat) (root : PathSoFar) {errand : Errand} (other : errand ≠ .quit)
    (kept : errand.All Kept) :
    texts (addSegments (.web port) root (segmentsAfter port errand.more.toList)) =
      texts root ++ errand.segments.map spelled := by
  have hsome : errand.segments.map String.toList ≠ [] := by
    cases errand with
    | quit => exact absurd rfl other
    | _ => exact List.cons_ne_nil _ _
  have hkept : ∀ text ∈ errand.segments.map String.toList, Kept text :=
    List.forall_mem_map.mpr (kept_segments kept)
  have hplain : ∀ text ∈ errand.segments.map String.toList, ¬ IsDots (written text) :=
    fun text h => (hkept text h).dots
  rw [Errand.more, String.toList_ofList, segmentsAfter_of_kept port hsome hkept, texts,
    addSegments_plain hsome hplain, List.reverse_append, List.reverse_reverse, List.map_append,
    ← texts, List.map_map, List.map_map]
  rfl

/-- The request for an errand with names that are kept has the segments of the errand as they are
written, and nothing else. -/
theorem Rooted.target_of_kept (at_root : Rooted base port root) {errand : Errand}
    (other : errand ≠ .quit) (kept : errand.All Kept) :
    (sent base errand).target = some (pathText (texts root ++ errand.segments.map spelled)) ∧
      segmentsOf (pathText (texts root ++ errand.segments.map spelled)) =
        texts root ++ errand.segments.map spelled := by
  obtain ⟨target, htarget, hsegments, hwhole⟩ := at_root.target_sent other
  have hkept : ∀ text ∈ errand.segments.map String.toList, Kept text :=
    List.forall_mem_map.mpr (kept_segments kept)
  have huncut : (cutTail (withoutBreaks (trimmedEnd errand.more.toList))).2 = [] := by
    rw [Errand.more, String.toList_ofList, cutTail_of_kept hkept]
  have htexts := texts_of_kept port root other kept
  have htext := hwhole huncut
  rw [ofList_text, htexts] at htext
  subst htext
  exact ⟨htarget, hsegments.trans htexts⟩

/-- Below the session, the request that ends it has nothing or an empty segment. -/
theorem Rooted.below?_quit (at_root : Rooted base port root) :
    below? base (sent base .quit) = some [] ∨ below? base (sent base .quit) = some [""] := by
  obtain ⟨target, htarget, hsegments⟩ := at_root.itself
  have hsent : (sent base .quit).target = some target := by
    rw [← htarget]
    exact congrArg target? String.append_empty
  rcases hsegments with h | h
  · exact .inl (at_root.below?_eq_some_iff.mpr ⟨target, hsent, by rw [h, List.append_nil]⟩)
  · exact .inr (at_root.below?_eq_some_iff.mpr ⟨target, hsent, h⟩)

/-- A request with names that are kept goes to the errand with these names as they are written. -/
theorem Rooted.routed_sent (at_root : Rooted base port root) {errand : Errand}
    (kept : errand.All Kept) : routed base (sent base errand) = some (errand.map spelled) := by
  by_cases hquit : errand = .quit
  · subst hquit
    rcases at_root.below?_quit with h | h
    all_goals
      rw [routed, h]
      rfl
  · have hmethod : (sent base errand).method = (errand.map spelled).call.method := by
      cases errand <;> rfl
    obtain ⟨htarget, hsegments⟩ := at_root.target_of_kept hquit kept
    rw [routed, at_root.below?_eq_some_iff.mpr ⟨_, htarget, hsegments⟩, ← segments_map_spelled,
      hmethod]
    exact Errand.ofSegments?_segments _

/-! ### Names that are carried -/

/-- A name that is carried is decoded from what is written of it. -/
theorem decoded?_spelled {name : String} (carried : Carried name.toList) :
    decoded? (spelled name) = some name := by
  have htext : utf8Text? (utf8 name.toList) = some name.toList := utf8Text?_eq_some_iff.mpr rfl
  rw [decoded?, spelled, String.toList_ofList, percentDecode_written carried, htext,
    Option.map_some, String.ofList_toList]

/-- A request with names that are carried is understood. -/
theorem Rooted.understood_sent (at_root : Rooted base port root) {errand : Errand}
    (carried : errand.All Carried) : understood base (sent base errand) = some errand := by
  have hkept : errand.All Kept :=
    ⟨fun element h => (carried.1 element h).toKept, fun name h => (carried.2 name h).toKept⟩
  have hdecoded : ∀ name, Carried name.toList → decoded? (spelled name) = some name :=
    fun _ h => decoded?_spelled h
  rw [understood, at_root.routed_sent hkept]
  obtain ⟨helement, hname⟩ := carried
  cases errand <;> simp_all [Errand.map, Errand.change?, Errand.element?, Errand.name?]

/-- The name of an errand is the last of its segments, and those before it are kept if its element
is. -/
theorem segments_of_name {errand : Errand} {name : String} (names : name ∈ errand.name?)
    (kept : ∀ element ∈ errand.element?, Kept element.toList) :
    ∃ front, errand.segments = front ++ [name] ∧ ∀ text ∈ front, Kept text.toList := by
  have hword : ∀ word ∈ Errand.words, Kept word.toList := fun word h => (kept_words word h).1
  have hfront : ∀ element ∈ errand.element?, ∀ word ∈ Errand.words,
      ∀ text ∈ ["element", element, word], Kept text.toList := by
    intro element helement word hin
    refine List.forall_mem_cons.mpr ⟨hword "element" (by decide), ?_⟩
    exact List.forall_mem_cons.mpr ⟨kept element helement, by simpa using hword word hin⟩
  cases errand with
  | deleteCookie cookie =>
    cases names
    exact ⟨["cookie"], rfl, by simpa using hword "cookie" (by decide)⟩
  | «attribute» element «attribute» =>
    cases names
    exact ⟨["element", element, "attribute"], rfl, hfront element rfl _ (by decide)⟩
  | property element property =>
    cases names
    exact ⟨["element", element, "property"], rfl, hfront element rfl _ (by decide)⟩
  | _ => cases names

/-- The name of an errand that has been changed is what the last segment was changed into. -/
theorem last_of_change? {change : String → Option String} {before errand : Errand} {name : String}
    (changes : before.change? change = some errand) (names : name ∈ errand.name?) :
    before ≠ .quit ∧ ∃ front last, before.segments = front ++ [last] ∧ change last = some name := by
  cases before with
  | deleteCookie cookie =>
    obtain ⟨changed, hchanged, rfl⟩ := Option.map_eq_some_iff.mp changes
    cases names
    exact ⟨nofun, ["cookie"], cookie, rfl, hchanged⟩
  | «attribute» element «attribute» =>
    obtain ⟨_, -, hrest⟩ := Option.bind_eq_some_iff.mp changes
    obtain ⟨changed, hchanged, hsame⟩ := Option.bind_eq_some_iff.mp hrest
    cases hsame
    cases names
    exact ⟨nofun, ["element", element, "attribute"], «attribute», rfl, hchanged⟩
  | property element property =>
    obtain ⟨_, -, hrest⟩ := Option.bind_eq_some_iff.mp changes
    obtain ⟨changed, hchanged, hsame⟩ := Option.bind_eq_some_iff.mp hrest
    cases hsame
    cases names
    exact ⟨nofun, ["element", element, "property"], property, rfl, hchanged⟩
  | deleteAllCookies | quit =>
    cases changes
    cases names
  | text element | displayed element =>
    obtain ⟨_, -, rfl⟩ := Option.map_eq_some_iff.mp changes
    cases names

/-- A request is understood only if the name in it is carried. The name is what the last segment below
the session decodes to, and that segment comes from the end of the text that was sent. -/
theorem Rooted.carried_of_understood (at_root : Rooted base port root) {errand : Errand}
    (kept : ∀ element ∈ errand.element?, Kept element.toList)
    (understands : understood base (sent base errand) = some errand) :
    ∀ name ∈ errand.name?, Carried name.toList := by
  intro name hname
  obtain ⟨raw, hrouted, hchange⟩ := Option.bind_eq_some_iff.mp understands
  obtain ⟨further, hbelow, hstands⟩ := Option.bind_eq_some_iff.mp hrouted
  obtain ⟨hraw, front, last, hfurther, hlast⟩ := last_of_change? hchange hname
  rw [(Errand.segments_of_ofSegments? hstands).resolve_left hraw, hfurther] at hbelow
  obtain ⟨target, htarget, hseen⟩ := at_root.below?_eq_some_iff.mp hbelow
  have hother : errand ≠ .quit := by
    rintro rfl
    cases hname
  obtain ⟨before, hnames, hbefore⟩ := segments_of_name hname kept
  obtain ⟨target', htarget', hsent, -⟩ := at_root.target_sent hother
  obtain rfl : target = target' := Option.some.inj (htarget.symm.trans htarget')
  have hplain : ∀ text ∈ before.map String.toList, ∀ c ∈ text, c ∉ signs :=
    List.forall_mem_map.mpr fun text h => (hbefore text h).plain
  rw [hseen, Errand.more, String.toList_ofList, hnames, List.map_append, List.map_singleton,
    segmentsAfter_intercalate port hplain, ← List.append_assoc] at hsent
  obtain ⟨others, final, hpath, hfinal⟩ := last_of_texts hsent.symm
  refine carried_of_last hpath (utf8Text?_eq_some_iff.mp ?_)
  obtain ⟨decoded, hdecoded, hname⟩ := Option.map_eq_some_iff.mp hlast
  rw [← hfinal, String.toList_ofList] at hdecoded
  rw [hdecoded, ← hname, String.toList_ofList]

/-! ### Telling requests apart -/

/-- What is sent with names that are kept depends on how they are written only. -/
theorem Rooted.sent_eq_iff (at_root : Rooted base port root) {first second : Errand}
    (hfirst : first.All Kept) (hsecond : second.All Kept) :
    sent base first = sent base second ↔ first.map spelled = second.map spelled := by
  constructor
  · intro hsame
    have hrouted := at_root.routed_sent hsecond
    rw [← hsame, at_root.routed_sent hfirst] at hrouted
    exact Option.some.inj hrouted
  · intro hsame
    by_cases hquit : first = .quit
    · subst hquit
      cases second <;> cases hsame
      rfl
    · have hother : second ≠ .quit := by
        rintro rfl
        cases first <;> cases hsame
        exact hquit rfl
      have hmessage : ∀ errand, sent base errand =
          ⟨(errand.map spelled).call.method, (sent base errand).target, ""⟩ := by
        intro errand
        cases errand <;> rfl
      rw [hmessage first, hmessage second, (at_root.target_of_kept hquit hfirst).1,
        (at_root.target_of_kept hother hsecond).1, ← segments_map_spelled, ← segments_map_spelled,
        hsame]

/-- How far the requests of a session can be told apart. -/
structure ToldApart (base : String) : Prop where
  /-- Every request is sent. -/
  sends : ∀ errand, (sent base errand).target.isSome
  /-- A request is understood exactly if the name of the cookie, attribute or property in it is
  carried, the name of the element being carried. -/
  understood_iff : ∀ errand, (∀ element ∈ errand.element?, Carried element.toList) →
    (understood base (sent base errand) = some errand ↔
      ∀ name ∈ errand.name?, Carried name.toList)
  /-- Requests with names that are kept are the same exactly if the names are written the same. -/
  same_iff : ∀ first second : Errand, first.All Kept → second.All Kept →
    (sent base first = sent base second ↔ first.map spelled = second.map spelled)
  /-- Requests for different errands with names that are carried are different. -/
  different : ∀ first second : Errand, first.All Carried → second.All Carried →
    first ≠ second → sent base first ≠ sent base second

/-- **Which requests a server can tell apart.** Below the address of any session, the request for an
errand is understood as that errand exactly if the name in it is a segment that decodes to the name.
Errands whose names are segments are sent in the same request exactly if the names are written the
same, so that different errands whose names are decoded are sent in different requests. -/
theorem told_apart (isBase : IsBase base) : ToldApart base := by
  obtain ⟨port, root, at_root⟩ := rooted isBase
  have hunderstood : ∀ errand : Errand, errand.All Carried →
      understood base (sent base errand) = some errand := fun _ => at_root.understood_sent
  refine ⟨fun errand => ?_, fun errand helement => ⟨?_, ?_⟩, fun _ _ => at_root.sent_eq_iff, ?_⟩
  · by_cases hquit : errand = .quit
    · obtain ⟨target, htarget, -⟩ := at_root.itself
      rw [← String.append_empty (s := base)] at htarget
      subst hquit
      exact Option.isSome_of_eq_some htarget
    · obtain ⟨target, htarget, -⟩ := at_root.target_sent hquit
      exact Option.isSome_of_eq_some htarget
  · exact at_root.carried_of_understood fun element h => (helement element h).toKept
  · intro hname
    exact hunderstood errand ⟨helement, hname⟩
  · intro first second hfirst hsecond hdifferent hsame
    have hsecond := hunderstood second hsecond
    rw [← hsame, hunderstood first hfirst] at hsecond
    exact hdifferent (Option.some.inj hsecond)

end

/-- The address of a session on this machine. -/
def loopback : String := "http://[::1]:4444/session/7"

/-- More can be written after the address of a session on this machine. -/
theorem isBase_loopback : IsBase loopback where
  trim := by decide
  reads := ⟨⟨"http".toList, some (.eightPieces [0, 0, 0, 0, 0, 0, 0, 1]), some 4444,
    "/session/7".toList, none, none⟩, 80, rfl, rfl, rfl, rfl⟩

/-- A blank and a percent sign in a name are carried. -/
theorem told_apart_discount : IsBase loopback ∧
    understood loopback (sent loopback (.attribute "e-1" "50 % off")) =
      some (.attribute "e-1" "50 % off") := by
  have helement : Carried "e-1".toList := by decide
  have hname : Carried "50 % off".toList := by decide
  have hunderstood := (told_apart isBase_loopback).understood_iff (.attribute "e-1" "50 % off")
    fun element h => Option.some.inj h ▸ helement
  exact ⟨isBase_loopback, hunderstood.mpr fun name h => Option.some.inj h ▸ hname⟩

/-- The name of a cookie can make the request that removes it the one that removes all cookies. -/
theorem cookie_name_strays : IsBase loopback ∧
    Errand.deleteCookie "../cookie" ≠ .deleteAllCookies ∧
    sent loopback (.deleteCookie "../cookie") = sent loopback .deleteAllCookies := by
  have hone : target? "http://[::1]:4444/session/7/cookie/../cookie" =
      some "/session/7/cookie" := by decide
  have hall : target? "http://[::1]:4444/session/7/cookie" = some "/session/7/cookie" := by decide
  refine ⟨isBase_loopback, by decide, ?_⟩
  rw [sent_eq, sent_eq]
  exact congrArg (Message.mk .delete · "") (hone.trans hall.symm)

end PageCheck.WebDriver
