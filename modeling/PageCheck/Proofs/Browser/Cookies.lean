import PageCheck.Proofs.Browser.Operations
import PageCheck.Proofs.Json.Records
import PageCheck.Proofs.Step.Polling

/-!
# Cookies that steps add and set

A jar is one cookie or a list of them. A step that adds or sets the cookies of a jar reads the whole
jar first: if one of them is no cookie, the step is invalid and nothing is asked of the session. If
all are, they are added one after the other, each in place of the one of its name, so the last one of
each name is left. The induction is on the jar, for all cookies that are there before. No command
makes a session keep two cookies of one name.
-/

namespace PageCheck

namespace Json

variable {α : Type} {decode : Decoder α} {items : List Draft}

/-- Items are decoded with the error of the first one that has one. -/
theorem failure?_decodeEach (decode : Decoder α) (items : List Draft) :
    failure? (decodeEach decode items) = items.findSome? fun item => failure? (decode item) := by
  induction items with
  | nil => rfl
  | cons item rest ih =>
    have hsplit : ((item :: rest).findSome? fun item => failure? (decode item)) =
        (failure? (decode item)).or (rest.findSome? fun item => failure? (decode item)) := by
      rw [List.findSome?_cons]
      cases failure? (decode item) <;> rfl
    rw [hsplit, decodeEach, ← ih]
    exact failure?_both _ _ _

/-- A single item is decoded by itself. -/
theorem decodeEach_singleton (decode : Decoder α) (item : Draft) :
    decodeEach decode [item] = (decode item).map ([·]) := by
  rw [decodeEach]
  cases decode item <;> rfl

/-- A list that has no text is decoded as its items. -/
theorem decodeList_inMemory (decode : Decoder α) (items : List Draft) :
    decodeList decode (.array items .inMemory) = decodeEach decode items := by
  rw [decodeList]
  cases decodeEach decode items <;> rfl

/-- Items are refused if one of them is. -/
theorem decodeEach_of_refused {item : Draft} (mem : item ∈ items)
    (refused : ∀ value, decode item ≠ .ok value) :
    ∃ error, decodeEach decode items = .error error := by
  cases hdecoded : decodeEach decode items with
  | error error => exact ⟨error, rfl⟩
  | ok values =>
    have hnone := failure?_decodeEach decode items
    rw [hdecoded] at hnone
    obtain ⟨value, hvalue⟩ :=
      failure?_eq_none_iff.mp (List.findSome?_eq_none_iff.mp hnone.symm item mem)
    exact absurd hvalue (refused value)

/-- Items are decoded one by one if each of them is. -/
theorem decodeEach_of_decoded (decoded : ∀ item ∈ items, ∃ value, decode item = .ok value) :
    decodeEach decode items = .ok (items.filterMap fun item => (decode item).toOption) := by
  induction items with
  | nil => rfl
  | cons item rest ih =>
    obtain ⟨⟨value, hvalue⟩, hrest⟩ := List.forall_mem_cons.mp decoded
    rw [decodeEach, ih hrest, List.filterMap_cons, hvalue]
    rfl

end Json

/-! ### Jars -/

namespace Cookie

/-- The values in a jar: the items of a list, or else the jar itself. -/
def jarItems : Json → List Json
  | .array items => items
  | single => [single]

/-- The cookies in a jar, in order. -/
def jarCookies (jar : Json) : List Cookie :=
  (jarItems jar).filterMap fun item => (ofJson item).toOption

/-- The names of cookies, in order. -/
def names (cookies : List Cookie) : List String := cookies.map (·.name)

/-- The last of the cookies of each name, in order. -/
def lastOfEach : List Cookie → List Cookie
  | [] => []
  | cookie :: rest =>
    if cookie.name ∈ names rest then lastOfEach rest else cookie :: lastOfEach rest

end Cookie

namespace ResolvedStep

open Cookie (jarCookies jarItems)

variable {step : ResolvedStep} {jar : Json}

/-- A jar is read value by value; null counts as no jar at all. -/
theorem cookieJar_eq (given : Members.get? "cookieJar" step.parameters = some jar) :
    step.cookieJar = if jar.isNull then .error (step.invalid "missing parameter 'cookieJar'")
      else (Json.decodeEach Cookie.decode ((jarItems jar).map Json.draft)).mapError fun error =>
        step.invalid ("invalid cookie: " ++ error.message) := by
  have hrequire : step.require "cookieJar" = if jar.isNull then
      .error (step.invalid "missing parameter 'cookieJar'") else .ok jar := by
    rw [require, param?, given]
    cases jar <;> rfl
  rw [cookieJar, hrequire]
  cases jar with
  | null => rfl
  | array items =>
    rw [jarItems, ← Json.draftItems_eq_map, ← Json.decodeList_inMemory]
    rfl
  | _ =>
    rw [jarItems, List.map_singleton, Json.decodeEach_singleton]
    · rfl
    · exact nofun

/-- A jar with something that is no cookie makes a step invalid. -/
theorem cookieJar_of_refused (given : Members.get? "cookieJar" step.parameters = some jar)
    {item : Json} (mem : item ∈ jarItems jar)
    (refused : ∀ cookie, Cookie.ofJson item ≠ .ok cookie) :
    ∃ reason, step.cookieJar = .error (.invalidStep step.action.name reason) := by
  rw [cookieJar_eq given]
  cases jar.isNull with
  | true => exact ⟨_, rfl⟩
  | false =>
    obtain ⟨error, herror⟩ := Json.decodeEach_of_refused
      (List.mem_map_of_mem (f := Json.draft) mem) refused
    rw [herror]
    exact ⟨_, rfl⟩

/-- A jar of cookies is read as its cookies. -/
theorem cookieJar_of_valid (given : Members.get? "cookieJar" step.parameters = some jar)
    (valid : ∀ item ∈ jarItems jar, ∃ cookie, Cookie.ofJson item = .ok cookie) :
    step.cookieJar = .ok (jarCookies jar) := by
  have hpresent : jar.isNull = false := by
    cases jar with
    | null =>
      obtain ⟨cookie, hcookie⟩ := valid .null List.mem_cons_self
      cases hcookie
    | _ => rfl
  have hdecoded := Json.decodeEach_of_decoded (List.forall_mem_map.mpr valid)
  rw [cookieJar_eq given, hpresent, hdecoded, List.filterMap_map]
  rfl

end ResolvedStep

/-! ### Adding one cookie after the other -/

namespace Scripted

open Cookie (jarCookies jarItems lastOfEach names)
open Session (addCookie)

/-- Add cookies one after the other. -/
def addEach (added before : List Cookie) : List Cookie :=
  added.foldl (fun cookies cookie => addCookie cookie cookies) before

/-- Adding cookies leaves those before that have other names, and the last added one of each
name. -/
theorem addEach_eq (added before : List Cookie) :
    addEach added before =
      before.filter (fun cookie => cookie.name ∉ names added) ++ lastOfEach added := by
  induction added generalizing before with
  | nil => simp [addEach, names, lastOfEach]
  | cons cookie rest ih =>
    have hbefore : (before.filter (·.name != cookie.name)).filter
          (fun other => other.name ∉ names rest) =
        before.filter fun other => other.name ∉ names (cookie :: rest) := by
      rw [List.filter_filter]
      refine List.filter_congr fun other _ => ?_
      by_cases hsame : other.name = cookie.name <;> simp [names, hsame]
    have hlast : [cookie].filter (fun other => other.name ∉ names rest) ++ lastOfEach rest =
        lastOfEach (cookie :: rest) := by
      rw [lastOfEach]
      by_cases hlater : cookie.name ∈ names rest
      · rw [if_pos hlater, List.filter_eq_nil_iff.mpr (by simpa using hlater), List.nil_append]
      · rw [if_neg hlater, List.filter_eq_self.mpr (by simpa using hlater), List.singleton_append]
    have hadded : addEach (cookie :: rest) before = addEach rest (addCookie cookie before) := rfl
    rw [hadded, ih, addCookie, List.filter_append, hbefore, List.append_assoc, hlast]

/-- A journal with further lines. -/
def Journal.writeAll (journal : Journal) (lines : List String) : Journal :=
  lines.foldl Journal.write journal

/-- The lines that adding cookies writes. -/
def linesOfAdding (target : BrowserTarget) (cookies : List Cookie) : List String :=
  cookies.map fun cookie => line target "add_cookie" cookie.name

variable {site : Site} {session : Session}

/-- Cookies are added in order, and each is written down. -/
theorem run_addAll (session : Session)
    (unspoiled : spoil site session.browser "add_cookie" = none) (cookies : List Cookie)
    (journal : Journal) :
    (StepHandler.addAll cookies).run (browser site) session journal =
      (.returned (), { session with cookies := addEach cookies session.cookies },
        journal.writeAll (linesOfAdding session.browser cookies)) := by
  induction cookies generalizing session journal with
  | nil => rfl
  | cons cookie rest ih =>
    have hperform : (browser site).perform (.addCookie cookie) session journal =
        (.returned (), { session with cookies := addCookie cookie session.cookies },
          journal.write (line session.browser "add_cookie" cookie.name)) :=
      perform_of_unspoiled unspoiled
    rw [StepHandler.addAll, Script.run_bind, Script.run_ask, hperform]
    exact ih { session with cookies := addCookie cookie session.cookies } unspoiled _

/-- What actions make of a jar of cookies. -/
structure Jarred (site : Site) (session : Session) (journal : Journal) (step : ResolvedStep)
    (timeouts : Timeouts) (jar : Json) : Prop where
  /-- An action that sets them clears what is there, and leaves the last cookie of each name. -/
  set : step.action = .setCookies →
    (StepHandler.browserAction step timeouts).run (browser site) session journal =
      (.returned .done, { session with cookies := lastOfEach (jarCookies jar) },
        journal.writeAll (line session.browser "delete_all_cookies" "" ::
          linesOfAdding session.browser (jarCookies jar)))
  /-- An action that adds them leaves the cookies of other names in front of those. -/
  added : step.action = .addCookies →
    (StepHandler.browserAction step timeouts).run (browser site) session journal =
      (.returned .done,
        { session with
          cookies := session.cookies.filter (fun cookie => cookie.name ∉ names (jarCookies jar)) ++
            lastOfEach (jarCookies jar) },
        journal.writeAll (linesOfAdding session.browser (jarCookies jar)))

/-- A jar of cookies is carried out, unless a rule spoils it. -/
theorem jarred_of_valid
    (unspoiled : ∀ operation, spoil site session.browser operation = none)
    {step : ResolvedStep} {jar : Json}
    (given : Members.get? "cookieJar" step.parameters = some jar)
    (valid : ∀ item ∈ jarItems jar, ∃ cookie, Cookie.ofJson item = .ok cookie)
    (journal : Journal) (timeouts : Timeouts) :
    Jarred site session journal step timeouts jar := by
  have hjar := ResolvedStep.cookieJar_of_valid given valid
  constructor
  · intro haction
    have hclear : (browser site).perform .deleteAllCookies session journal =
        (.returned (), { session with cookies := [] },
          journal.write (line session.browser "delete_all_cookies" "")) :=
      perform_of_unspoiled (unspoiled _)
    have hadd := run_addAll { session with cookies := [] } (unspoiled _) (jarCookies jar)
      (journal.write (line session.browser "delete_all_cookies" ""))
    rw [addEach_eq, List.filter_nil, List.nil_append] at hadd
    rw [StepHandler.browserAction, Script.run_bind, StepHandler.commands, haction]
    simp only [hjar, Script.ofResult, Script.done_bind]
    rw [Script.run_bind, Script.run_ask, hclear]
    simp only [hadd]
    rfl
  · intro haction
    have hadd := run_addAll session (unspoiled _) (jarCookies jar) journal
    rw [addEach_eq] at hadd
    rw [StepHandler.browserAction, Script.run_bind, StepHandler.commands, haction]
    simp only [hjar, Script.ofResult, Script.done_bind, hadd]
    rfl

/-! ### Names -/

/-- Fewer cookies have no name twice if more have none. -/
theorem nodup_names_filter {cookies : List Cookie} (unique : (names cookies).Nodup)
    (kept : Cookie → Bool) : (names (cookies.filter kept)).Nodup :=
  unique.sublist (List.filter_sublist.map _)

/-- Adding a cookie takes the one of its name away. -/
theorem nodup_names_addCookie {cookies : List Cookie} (unique : (names cookies).Nodup)
    (cookie : Cookie) : (names (addCookie cookie cookies)).Nodup := by
  have happend : names (addCookie cookie cookies) =
      names (cookies.filter (·.name != cookie.name)) ++ [cookie.name] := List.map_append
  rw [happend]
  refine List.nodup_append.mpr ⟨nodup_names_filter unique _, List.nodup_singleton _, ?_⟩
  rintro name hname other hother rfl
  obtain ⟨kept, hkept, rfl⟩ := List.mem_map.mp hname
  have hapart := (List.mem_filter.mp hkept).2
  rw [List.mem_singleton.mp hother] at hapart
  simp at hapart

/-- No command gives a session two cookies of one name. -/
theorem nodup_names_carryOut (unique : (names session.cookies).Nodup) (command : Command) :
    (names (session.carryOut site command).2.cookies).Nodup := by
  cases command with
  | addCookie cookie => exact nodup_names_addCookie unique cookie
  | deleteCookie name => exact nodup_names_filter unique _
  | deleteAllCookies => exact List.nodup_nil
  | forward =>
    dsimp only [Session.carryOut, Session.forward]
    split <;> exact unique
  | «attribute» element name | property element name | setAttribute element name value
  | clear element | sendKeys element text =>
    dsimp only [Session.carryOut]
    split <;> exact unique
  | _ => exact unique

/-! ### Steps and sessions -/

/-- Whether an action is about a jar of cookies. -/
def IsAboutJar (action : ActionType) : Prop := action = .addCookies ∨ action = .setCookies

/-- A step whose jar holds something that is no cookie is invalid, and asks nothing of any
session. -/
theorem run_of_refused {World Session : Type} {step : ResolvedStep} {jar item : Json}
    (about : IsAboutJar step.action)
    (given : Members.get? "cookieJar" step.parameters = some jar) (mem : item ∈ jarItems jar)
    (refused : ∀ cookie, Cookie.ofJson item ≠ .ok cookie) :
    ∃ reason, ∀ (browser : Browser World Session) (timeouts : Timeouts) (session : Session)
      (world : World),
      (StepHandler.browserAction step timeouts).run browser session world =
        (.failed (.invalidStep step.action.name reason), session, world) := by
  obtain ⟨reason, hreason⟩ := ResolvedStep.cookieJar_of_refused given mem refused
  refine ⟨reason, fun browser timeouts session world => ?_⟩
  rw [StepHandler.browserAction, Script.run_bind, StepHandler.commands]
  rcases about with haction | haction <;> simp only [haction] at hreason ⊢ <;>
    simp only [hreason, Script.ofResult] <;> rfl

/-- A cookie with a name and a value only. -/
def plainCookie (name value : String) : Cookie := ⟨name, value, none, none, none, none, none⟩

/-- A step with a jar. -/
def jarStep (action : ActionType) (jar : Json) : ResolvedStep :=
  ⟨action, none, [("cookieJar", jar)], none, none⟩

/-- A session with two cookies. -/
def stocked : Session :=
  { Session.fresh .firefox with cookies := [plainCookie "lang" "en", plainCookie "cart" "0"] }

/-- A jar in which a name comes back. -/
def repeating : Json := .array
  [(plainCookie "cart" "1").toJson, (plainCookie "user" "ada").toJson,
    (plainCookie "cart" "2").toJson]

end Scripted

end PageCheck
