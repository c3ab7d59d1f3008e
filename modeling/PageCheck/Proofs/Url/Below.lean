import Mathlib.Data.List.TakeDrop
import Mathlib.Data.List.TakeWhile
import PageCheck.Proofs.Fallible
import PageCheck.Proofs.Url.Paths

/-!
# Addresses below an address

An address of the web without query and fragment, and without blanks around it, can be followed by a
slash and anything else. It is read up to there as it is read by itself: scheme, host and port are
the same, and the segments of its path come first. What follows is cut at the first question mark or
hash sign, and its segments are added to those.
-/

namespace PageCheck.Url

open Unicode (splitOnChar splitOnChar_append splitOnChar_join)

/-! ### Cutting texts -/

section

variable {holds : Char → Bool} {sign : Char}

/-- What is dropped in front of a sign that stays is the same if more follows. -/
theorem dropWhile_append_cons (holds : Char → Bool) (stays : holds sign = false)
    (text rest : List Char) :
    (text ++ sign :: rest).dropWhile holds = text.dropWhile holds ++ sign :: rest := by
  induction text with
  | nil => simp [stays]
  | cons c text ih =>
    rw [List.cons_append, List.dropWhile_cons, List.dropWhile_cons, ih]
    split <;> rfl

/-- What is taken in front of a sign that is not is the same if more follows. -/
theorem takeWhile_append_cons (holds : Char → Bool) (stays : holds sign = false)
    (text rest : List Char) :
    (text ++ sign :: rest).takeWhile holds = text.takeWhile holds := by
  induction text with
  | nil => simp [stays]
  | cons c text ih =>
    rw [List.cons_append, List.takeWhile_cons, List.takeWhile_cons, ih]

/-- A text is cut in front of the first sign where it is cut if more follows that sign. -/
theorem cutBefore_append_cons (stops : holds sign = true) (text rest : List Char) :
    cutBefore holds (text ++ sign :: rest) =
      ((cutBefore holds text).1, (cutBefore holds text).2 ++ sign :: rest) := by
  have hstays : (!holds sign) = false := by rw [stops]; rfl
  simp only [cutBefore, List.span_eq_takeWhile_dropWhile]
  rw [takeWhile_append_cons (fun c => !holds c) hstays,
    dropWhile_append_cons (fun c => !holds c) hstays]

/-- A text that is not cut is not cut if more follows, either. -/
theorem cutBefore_append (whole : (cutBefore holds text).2 = []) (rest : List Char) :
    cutBefore holds (text ++ rest) =
      (text ++ (cutBefore holds rest).1, (cutBefore holds rest).2) := by
  simp only [cutBefore, List.span_eq_takeWhile_dropWhile] at whole ⊢
  have hall := List.dropWhile_eq_nil_iff.mp whole
  rw [List.takeWhile_append_of_pos hall, List.dropWhile_append_of_pos hall]

/-- What is dropped in front of something that stays is the same if more follows. -/
theorem dropWhile_append {text : List Char} (stays : text.dropWhile holds ≠ []) (rest : List Char) :
    (text ++ rest).dropWhile holds = text.dropWhile holds ++ rest := by
  rw [List.dropWhile_append, if_neg]
  simpa [List.isEmpty_iff] using stays

end

/-- Whether a character is a blank or a control character, which do not count at the ends of an
address. -/
def isOuter (c : Char) : Bool := c.toNat ≤ 0x20

/-- A text without blanks and control characters at its end. -/
def trimmedEnd (text : List Char) : List Char := (text.reverse.dropWhile isOuter).reverse

/-- The end of a text begins anew after a slash. -/
theorem trimmedEnd_append (text rest : List Char) :
    trimmedEnd (text ++ '/' :: rest) = text ++ '/' :: trimmedEnd rest := by
  have hslash : isOuter '/' = false := by decide
  rw [trimmedEnd, List.reverse_append, List.reverse_cons, List.append_assoc,
    List.singleton_append, dropWhile_append_cons _ hslash]
  simp [trimmedEnd]

/-- A text without blanks around it and the slash after it are left as they are. -/
theorem trimmed_append {text : List Char} (trim : trimmed text = text) (some_char : text ≠ [])
    (rest : List Char) : trimmed (text ++ '/' :: rest) = text ++ '/' :: trimmedEnd rest := by
  have htrim : ∀ text, trimmed text = trimmedEnd (text.dropWhile isOuter) := fun _ => rfl
  have hstart : text.dropWhile isOuter = text := by
    have hsuffix : text.dropWhile isOuter <:+ text := List.dropWhile_suffix _
    refine hsuffix.eq_of_length (Nat.le_antisymm hsuffix.length_le ?_)
    have hlength := congrArg List.length trim
    rw [htrim, trimmedEnd, List.length_reverse] at hlength
    have hdrop := (List.dropWhile_suffix (p := isOuter)
      (l := (text.dropWhile isOuter).reverse)).length_le
    rw [List.length_reverse] at hdrop
    omega
  have hdrop : (text ++ '/' :: rest).dropWhile isOuter = text ++ '/' :: rest := by
    rw [dropWhile_append (by rw [hstart]; exact some_char), hstart]
  rw [htrim, hdrop, trimmedEnd_append]

/-- A scheme that a text begins with is the one that it begins with if more follows. -/
theorem scheme?_append {text scheme rest : List Char} (begins : scheme? text = some (scheme, rest))
    (more : List Char) : scheme? (text ++ more) = some (scheme, rest ++ more) := by
  have hcolon : isSchemeChar ':' = false := by decide
  simp only [scheme?, List.span_eq_takeWhile_dropWhile] at begins ⊢
  split at begins
  next c letters after hletters hafter =>
    have hsplit : text = c :: letters ++ ':' :: after := by
      rw [← hletters, ← hafter, List.takeWhile_append_dropWhile]
    have hmore : text ++ more = c :: letters ++ ':' :: (after ++ more) := by
      rw [hsplit, List.append_assoc]
      rfl
    have htake : (text ++ more).takeWhile isSchemeChar = c :: letters := by
      rw [hmore, takeWhile_append_cons _ hcolon, ← takeWhile_append_cons _ hcolon _ after, ← hsplit,
        hletters]
    have hstays : text.dropWhile isSchemeChar ≠ [] := by
      rw [hafter]
      exact List.cons_ne_nil _ _
    rw [dropWhile_append hstays, htake, hafter]
    dsimp only [List.cons_append]
    split at begins
    next hletter =>
      cases begins
      rw [hletters]
      exact if_pos hletter
    · cases begins
  · cases begins

/-! ### Reading addresses -/

/-- What follows two slashes is read for the scheme in front of them. -/
theorem scheme_readAfterSlashes {scheme text tail : List Char} {kind : SchemeKind} {url : Url}
    (reads : readAfterSlashes scheme kind text tail = .ok url) : url.scheme = scheme := by
  obtain ⟨_, -, hurl⟩ := ok_of_bind reads
  cases hurl
  rfl

/-- What follows the scheme of a file is read for that scheme. -/
theorem scheme_readFile {scheme text tail : List Char} {url : Url}
    (reads : readFile scheme text tail = .ok url) : url.scheme = scheme := by
  rw [readFile] at reads
  split at reads
  · cases reads
    rfl
  · cases reads
    rfl
  dsimp only at reads
  split at reads
  · cases reads
    rfl
  split at reads
  all_goals
    obtain ⟨host, -, hhost⟩ := ok_of_bind reads
    split at hhost
    all_goals
      cases hhost
      rfl

/-- An address that is read has the scheme that it begins with. -/
theorem scheme_of_parse {text : String} {url : Url} (parsed : parse text = .ok url) :
    ∃ rest, scheme? (withoutBreaks (trimmed text.toList)) = some (url.scheme, rest) := by
  rw [parse] at parsed
  split at parsed
  · cases parsed
  next scheme rest hbegins =>
    have hscheme : url.scheme = scheme := by
      dsimp only at parsed
      split at parsed
      · exact scheme_readFile parsed
      · exact scheme_readAfterSlashes parsed
      · exact scheme_readAfterSlashes parsed
      · cases parsed
        rfl
      · cases parsed
        rfl
    exact ⟨rest, by rw [hbegins, hscheme]⟩

/-- After a scheme of the web come the authority and the path. -/
theorem parse_of_scheme {text : String} {scheme rest : List Char} {port : Nat}
    (begins : scheme? (withoutBreaks (trimmed text.toList)) = some (scheme, rest))
    (web : SchemeKind.ofScheme scheme = .web port) :
    parse text = readAfterSlashes scheme (.web port)
      ((cutTail rest).1.dropWhile (SchemeKind.web port).isSlash) (cutTail rest).2 := by
  rw [parse, begins]
  dsimp only
  rw [web]

/-- An authority of the web has a host to be read, so what follows it plays no part. -/
theorem readAuthority_web {port : Nat} {authority rest : List Char}
    {result : Option Host × Option Nat × List Char}
    (reads : readAuthority (.web port) authority rest = .ok result) (more : List Char) :
    authority ≠ [] ∧ readAuthority (.web port) authority more = .ok result := by
  have hspecial : (SchemeKind.web port).isSpecial = true := rfl
  rcases hsplit : splitUserinfo authority with ⟨userinfo, address⟩
  rw [readAuthority, hsplit, hspecial] at reads
  dsimp only at reads
  cases address with
  | nil =>
    split at reads
    · cases reads
    · cases reads
  | cons c address =>
    rw [List.isEmpty_cons, Bool.and_false, Bool.false_and] at reads
    constructor
    · rintro rfl
      cases hsplit
    · rw [readAuthority, hsplit, hspecial]
      dsimp only
      rw [List.isEmpty_cons, Bool.and_false, Bool.false_and]
      exact reads

/-- An address with neither query nor fragment has nothing where they would stand. -/
theorem eq_nil_of_withTail {kind : SchemeKind} {url : Url} {tail : List Char}
    (query : (withTail kind url tail).query = none)
    (fragment : (withTail kind url tail).fragment = none) : tail = [] := by
  rw [withTail] at query fragment
  rcases hcut : cutBefore (· == '#') tail with ⟨queryText, fragmentText⟩
  have hparts : queryText ++ fragmentText = tail := by
    have hspan := List.takeWhile_append_dropWhile (p := fun c : Char => !(c == '#')) (l := tail)
    rw [cutBefore, List.span_eq_takeWhile_dropWhile] at hcut
    cases hcut
    exact hspan
  rw [hcut] at query fragment
  cases queryText with
  | cons c text => cases query
  | nil =>
    cases fragmentText with
    | cons c text => cases fragment
    | nil => exact hparts.symm

/-! ### Paths below paths -/

/-- A text with all of its slashes written the same. -/
def slashed (kind : SchemeKind) (text : List Char) : List Char :=
  text.map fun c => if kind.isSlash c then '/' else c

section

variable {port : Nat}

/-- What a path is read as by itself and where more follows it: there are segments that come first
in every path below it, and it has them itself, with an empty one after them or not. -/
structure Leads (port : Nat) (itself : List Char) (below : List Char → List Char)
    (root : PathSoFar) : Prop where
  /-- The segments that come first have no sign that ends them. -/
  clean : ∀ each ∈ root.segments, Clean each
  /-- The path itself. -/
  itself : ∃ own, own ≠ [] ∧ (∀ each ∈ own, Clean each) ∧
    (own = root.segments ∨ own = [] :: root.segments) ∧
    itself = '/' :: ['/'].intercalate own.reverse
  /-- The paths below it. -/
  below : ∀ rest, below rest = (addSegments (.web port) root
    (splitOnChar '/' (slashed (.web port) rest))).text (.web port)

/-- A path is followed by the segments of what is written after a slash. -/
theorem leads_pathOf (port : Nat) (text : List Char) :
    Leads port (pathOf (.web port) text) (fun rest => pathOf (.web port) (text ++ '/' :: rest))
      (addInner (.web port) ⟨[], false⟩ (splitOnChar '/' (slashed (.web port) text))) := by
  obtain ⟨piece, pieces, hpieces, -, hunbroken⟩ := splitOnChar_join '/' (slashed (.web port) text)
  have hsome : piece :: pieces ≠ [] := List.cons_ne_nil _ _
  have hnone : ∀ each ∈ (⟨[], false⟩ : PathSoFar).segments, Clean each := nofun
  rw [hpieces]
  refine ⟨clean_addInner port hnone hunbroken, ?_, fun rest => ?_⟩
  · obtain ⟨hne, heq⟩ := addSegments_eq_addInner port ⟨[], false⟩ hsome
    refine ⟨_, hne, clean_addSegments port hnone hsome hunbroken, heq, ?_⟩
    rw [← hpieces]
    rfl
  · have hslash : slashed (.web port) (text ++ '/' :: rest) =
        slashed (.web port) text ++ '/' :: slashed (.web port) rest := by
      rw [slashed, List.map_append, List.map_cons]
      rfl
    obtain ⟨next, more, hnext, -, -⟩ := splitOnChar_join '/' (slashed (.web port) rest)
    rw [pathOf, pathSoFar, ← slashed, hslash, splitOnChar_append, hpieces, hnext,
      addSegments_append _ _ _ (List.cons_ne_nil _ _)]

/-- The path after an authority leads the paths below it. -/
theorem leads_pathAfterAuthority (port : Nat) (text : List Char) :
    ∃ root, Leads port (pathAfterAuthority (.web port) text)
      (fun rest => pathAfterAuthority (.web port) (text ++ '/' :: rest)) root := by
  cases text with
  | nil =>
    refine ⟨⟨[], false⟩, nofun, ⟨[[]], List.cons_ne_nil _ _, ?_, .inr rfl, rfl⟩, fun rest => rfl⟩
    exact List.forall_mem_cons.mpr ⟨⟨List.not_mem_nil, List.not_mem_nil⟩, nofun⟩
  | cons c text =>
    by_cases hslash : (SchemeKind.web port).isSlash c = true
    · have hpath : ∀ more, pathAfterAuthority (.web port) (c :: more) = pathOf (.web port) more :=
        fun _ => if_pos hslash
      simp only [List.cons_append, hpath]
      exact ⟨_, leads_pathOf port text⟩
    · have hpath : ∀ more,
          pathAfterAuthority (.web port) (c :: more) = pathOf (.web port) (c :: more) :=
        fun _ => if_neg hslash
      simp only [List.cons_append, hpath]
      exact ⟨_, leads_pathOf port (c :: text)⟩

end

/-! ### Addresses below addresses -/

/-- An address of the web that more can be written after: neither a query nor a fragment has begun,
and no blanks stand around it. -/
structure IsBase (address : String) : Prop where
  /-- No blanks stand around it. -/
  trim : trimmed address.toList = address.toList
  /-- It is read as an address of the web without query and fragment. -/
  reads : ∃ url port, parse address = .ok url ∧ SchemeKind.ofScheme url.scheme = .web port ∧
    url.query = none ∧ url.fragment = none

/-- What an address ends in where a slash and a text are written after it: the text without breaks
and without blanks at its end, up to the first question mark or hash sign. -/
def ending (text : List Char) : List Char := (cutTail (withoutBreaks (trimmedEnd text))).1

/-- A text with neither question mark nor hash sign and the slash after it are not cut. -/
theorem cutTail_append {text : List Char} (whole : (cutTail text).2 = []) (rest : List Char) :
    cutTail (text ++ '/' :: rest) = (text ++ '/' :: (cutTail rest).1, (cutTail rest).2) := by
  have hslash : cutTail ('/' :: rest) = ('/' :: (cutTail rest).1, (cutTail rest).2) := by
    simp only [cutTail, cutBefore, List.span_eq_takeWhile_dropWhile]
    rfl
  rw [cutTail, cutBefore_append whole, ← cutTail, hslash]

/-- A text with neither question mark nor hash sign is all that stands before them. -/
theorem cutTail_whole {text : List Char} (whole : (cutTail text).2 = []) :
    (cutTail text).1 = text := by
  have happend := congrArg Prod.fst (cutBefore_append whole [])
  rw [List.append_nil] at happend
  rw [cutTail, happend]
  exact List.append_nil text

/-- An address and what is written after it begin with the same scheme. -/
theorem scheme?_below {address : String} {scheme rest : List Char}
    (trim : trimmed address.toList = address.toList)
    (begins : scheme? (withoutBreaks (trimmed address.toList)) = some (scheme, rest))
    (more : String) : scheme? (withoutBreaks (trimmed (address ++ "/" ++ more).toList)) =
      some (scheme, rest ++ '/' :: withoutBreaks (trimmedEnd more.toList)) := by
  have hsome : address.toList ≠ [] := by
    intro hnil
    rw [hnil] at begins
    cases begins
  have hslash : "/".toList = ['/'] := rfl
  rw [trim] at begins
  rw [String.toList_append, String.toList_append, hslash, List.append_assoc,
    List.singleton_append, trimmed_append trim hsome, withoutBreaks, List.filter_append]
  exact scheme?_append begins _

/-- What follows two slashes is read if its authority is. -/
theorem readAfterSlashes_eq (scheme : List Char) (kind : SchemeKind) (text tail : List Char) :
    readAfterSlashes scheme kind text tail =
      readAuthority kind (cutBefore kind.isSlash text).1 ((cutBefore kind.isSlash text).2 ++ tail)
        >>= fun (host, port, early) => .ok (withTail kind ⟨scheme, host, port,
          pathAfterAuthority kind (early ++ (cutBefore kind.isSlash text).2), none, none⟩ tail) :=
  rfl

/-- Whatever is written after an address and a slash is read as a path below that of the address,
and a query only if a question mark or a hash sign is in it. The slash ends the authority if nothing
before it does. -/
theorem parse_below {address : String} (base : IsBase address) :
    ∃ url port root below, parse address = .ok url ∧ Leads port url.path below root ∧
      ∀ more : String, ∃ further, parse (address ++ "/" ++ more) = .ok further ∧
        further.path = below (ending more.toList) ∧
        ((cutTail (withoutBreaks (trimmedEnd more.toList))).2 = [] → further.query = none) := by
  obtain ⟨url, port, hparse, hweb, hquery, hfragment⟩ := base.reads
  obtain ⟨rest, hbegins⟩ := scheme_of_parse hparse
  have hself := hparse
  rw [parse_of_scheme hbegins hweb, readAfterSlashes_eq] at hself
  obtain ⟨⟨host, hostPort, early⟩, hreads, hurl⟩ := ok_of_bind hself
  have hurl := Except.ok.inj hurl
  have htail : (cutTail rest).2 = [] :=
    eq_nil_of_withTail (by rw [hurl]; exact hquery) (by rw [hurl]; exact hfragment)
  rw [cutTail_whole htail] at hreads hurl
  rcases hcut : cutBefore (SchemeKind.web port).isSlash
    (rest.dropWhile (SchemeKind.web port).isSlash) with ⟨authority, path⟩
  rw [hcut] at hreads hurl
  obtain ⟨root, hleads⟩ := leads_pathAfterAuthority port (early ++ path)
  have hpath : url.path = pathAfterAuthority (.web port) (early ++ path) := by
    rw [← hurl]
    rfl
  rw [← hpath] at hleads
  refine ⟨url, port, root, _, hparse, hleads, fun more => ?_⟩
  have hstays : rest.dropWhile (SchemeKind.web port).isSlash ≠ [] := by
    intro hnil
    rw [hnil] at hcut
    cases hcut
    exact (readAuthority_web hreads []).1 rfl
  have hends : (SchemeKind.web port).isSlash '/' = true := rfl
  rw [parse_of_scheme (scheme?_below base.trim hbegins more) hweb, readAfterSlashes_eq,
    cutTail_append htail, ← ending, dropWhile_append hstays, cutBefore_append_cons hends, hcut,
    (readAuthority_web hreads _).2]
  refine ⟨_, rfl, ?_, fun hnone => ?_⟩
  · rw [List.append_assoc]
    rfl
  · rw [hnone]
    rfl

end PageCheck.Url
