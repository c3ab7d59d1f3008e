import PageCheck.Browser.WebDriver

/-!
# Endpoints and the order in which they are looked through

A configuration names endpoints for browsers, each under a spelling of its own, and does not fix the
order in which they are looked through. Spellings that differ in the case of ASCII letters only are
the same name, so a browser can have several entries, and it is reached at the one that comes first.
Every entry of a browser comes first in some order. Where a browser is reached is settled, whatever
the order, exactly if all of its entries agree.
-/

namespace PageCheck

namespace Endpoints

variable {endpoints other : Endpoints} {browser : String}

/-- An entry is one of a browser: the case of ASCII letters does not count. -/
def IsFor (browser : String) (entry : String × String) : Prop :=
  Unicode.eqIgnoringAsciiCase entry.1 browser = true

instance (browser : String) (entry : String × String) : Decidable (IsFor browser entry) :=
  inferInstanceAs (Decidable (_ = true))

/-- The same endpoints, to be looked through in another order. -/
structure Reordered (endpoints other : Endpoints) : Prop where
  /-- The default stays. -/
  usual : other.defaultUrl = endpoints.defaultUrl
  /-- The entries are the same, in whatever order. -/
  entries : other.named.Perm endpoints.named

/-- Where a browser can be reached: at an entry of its own, or at the default if it has none. -/
inductive Offers (endpoints : Endpoints) (browser : String) : String → Prop
  | entry {entry : String × String} (mem : entry ∈ endpoints.named) (own : IsFor browser entry) :
      Offers endpoints browser entry.2
  | usual (none : ∀ entry ∈ endpoints.named, ¬ IsFor browser entry) :
      Offers endpoints browser endpoints.defaultUrl

/-- The entries of a browser agree on where it is reached. -/
def Agree (endpoints : Endpoints) (browser : String) : Prop :=
  ∀ first ∈ endpoints.named, ∀ second ∈ endpoints.named,
    IsFor browser first → IsFor browser second → first.2 = second.2

/-- Without an entry a browser is reached at the default. -/
theorem endpointFor_of_none (none : ∀ entry ∈ endpoints.named, ¬ IsFor browser entry) :
    endpoints.endpointFor browser = endpoints.defaultUrl := by
  have hfind : (endpoints.named.find? fun entry =>
      Unicode.eqIgnoringAsciiCase entry.1 browser) = Option.none :=
    List.find?_eq_none.mpr none
  rw [endpointFor, hfind]

/-- A browser is reached at the first of its entries. -/
theorem endpointFor_of_first {before after : List (String × String)} {entry : String × String}
    (split : endpoints.named = before ++ entry :: after) (own : IsFor browser entry)
    (first : ∀ earlier ∈ before, ¬ IsFor browser earlier) :
    endpoints.endpointFor browser = entry.2 := by
  have hfind : (endpoints.named.find? fun entry =>
      Unicode.eqIgnoringAsciiCase entry.1 browser) = some entry := by
    refine List.find?_eq_some_iff_append.mpr ⟨own, before, after, split, fun earlier hmem => ?_⟩
    simpa [IsFor] using first earlier hmem
  rw [endpointFor, hfind]

/-- It is reached where it can be. -/
theorem offers_endpointFor (endpoints : Endpoints) (browser : String) :
    endpoints.Offers browser (endpoints.endpointFor browser) := by
  cases hfind : endpoints.named.find? fun entry =>
      Unicode.eqIgnoringAsciiCase entry.1 browser with
  | none =>
    have hnone := List.find?_eq_none.mp hfind
    rw [endpointFor_of_none hnone]
    exact .usual hnone
  | some entry =>
    have hurl : endpoints.endpointFor browser = entry.2 := by rw [endpointFor, hfind]
    have hown : IsFor browser entry := by simpa [IsFor] using List.find?_some hfind
    rw [hurl]
    exact .entry (List.mem_of_find?_eq_some hfind) hown

/-- The order does not matter for where a browser can be reached. -/
theorem Reordered.offers (reordered : endpoints.Reordered other) {url : String}
    (offers : other.Offers browser url) : endpoints.Offers browser url := by
  cases offers with
  | entry mem own => exact .entry (reordered.entries.mem_iff.mp mem) own
  | usual none =>
    rw [reordered.usual]
    exact .usual fun entry mem => none entry (reordered.entries.mem_iff.mpr mem)

/-- Wherever a browser can be reached, it is reached in some order. -/
theorem Offers.exists_reordered {url : String} (offers : endpoints.Offers browser url) :
    ∃ other, endpoints.Reordered other ∧ other.endpointFor browser = url := by
  cases offers with
  | usual none => exact ⟨endpoints, ⟨rfl, .refl _⟩, endpointFor_of_none none⟩
  | @entry entry mem own =>
    obtain ⟨before, after, hsplit⟩ := List.append_of_mem mem
    refine ⟨⟨endpoints.defaultUrl, entry :: (before ++ after)⟩, ⟨rfl, ?_⟩, ?_⟩
    · rw [hsplit]
      exact List.perm_middle.symm
    · exact endpointFor_of_first (List.nil_append _).symm own (List.forall_mem_nil _)

/-- Where entries agree, there is one place in which a browser can be reached. -/
theorem Agree.offers_unique (agree : endpoints.Agree browser) {first second : String}
    (offersFirst : endpoints.Offers browser first)
    (offersSecond : endpoints.Offers browser second) : first = second := by
  cases offersFirst with
  | usual none =>
    cases offersSecond with
    | usual => rfl
    | entry mem own => exact absurd own (none _ mem)
  | entry mem own =>
    cases offersSecond with
    | usual none => exact absurd own (none _ mem)
    | entry memSecond ownSecond => exact agree _ mem _ memSecond own ownSecond

/-- Where entries agree, a browser is reached at the same address in every order. -/
theorem Reordered.endpointFor_eq (reordered : endpoints.Reordered other)
    (agree : endpoints.Agree browser) :
    other.endpointFor browser = endpoints.endpointFor browser :=
  agree.offers_unique (reordered.offers (other.offers_endpointFor browser))
    (endpoints.offers_endpointFor browser)

/-- So its sessions are started alike: the same request goes to the same address. -/
theorem Reordered.start_eq {World : Type} {target : BrowserTarget}
    (reordered : endpoints.Reordered other) (agree : endpoints.Agree target.name)
    (link : WebDriver.Link World) (options : RunOptions) (world : World) :
    WebDriver.start other link target options world =
      WebDriver.start endpoints link target options world := by
  rw [WebDriver.start, WebDriver.start, reordered.endpointFor_eq agree]

/-- **Where a browser is reached.** The addresses at which a browser is reached, over all orders in
which the entries may be looked through, are those of its entries, or the default if it has none.
So it is reached at the same one in every order exactly if its entries agree; its sessions are then
started alike. -/
theorem endpoint_settled_iff (endpoints : Endpoints) (browser : String) :
    (∀ url, (∃ other, endpoints.Reordered other ∧ other.endpointFor browser = url) ↔
      endpoints.Offers browser url) ∧
    ((∃ url, endpoints.Offers browser url ∧
        ∀ other, endpoints.Reordered other → other.endpointFor browser = url) ↔
      endpoints.Agree browser) ∧
    (∀ (World : Type) (link : WebDriver.Link World) (target : BrowserTarget)
      (options : RunOptions) (world : World) (other : Endpoints), endpoints.Reordered other →
      target.name = browser → endpoints.Agree browser →
      WebDriver.start other link target options world =
        WebDriver.start endpoints link target options world) := by
  refine ⟨fun url => ⟨?_, Offers.exists_reordered⟩, ⟨?_, ?_⟩, ?_⟩
  · rintro ⟨other, hreordered, rfl⟩
    exact hreordered.offers (other.offers_endpointFor browser)
  · rintro ⟨url, -, hsettled⟩ first hfirst second hsecond ownFirst ownSecond
    obtain ⟨other, hother, hurl⟩ := (Offers.entry hfirst ownFirst).exists_reordered
    obtain ⟨another, hanother, hurl'⟩ := (Offers.entry hsecond ownSecond).exists_reordered
    rw [← hurl, ← hurl', hsettled other hother, hsettled another hanother]
  · exact fun agree => ⟨_, endpoints.offers_endpointFor browser,
      fun other reordered => reordered.endpointFor_eq agree⟩
  · rintro World link target options world other reordered rfl agree
    exact reordered.start_eq agree link options world

/-- Endpoints with entries for two browsers. -/
def apart : Endpoints := ⟨"http://localhost:4444", [("chrome", "http://a"), ("Firefox", "http://b")]⟩

/-- The same endpoints, the other way round. -/
def apartReordered : Endpoints := ⟨apart.defaultUrl, apart.named.reverse⟩

/-- A link without answers. -/
def silent : WebDriver.Link Unit := ⟨fun _ world => (.error "refused", world), fun _ world => world⟩

/-- With one entry for a browser, both orders start its sessions alike, at that entry. -/
theorem endpoint_settled_iff_apart :
    apart.Reordered apartReordered ∧ BrowserTarget.name .chrome = "Chrome" ∧
      apart.Agree "Chrome" ∧
      WebDriver.start apartReordered silent .chrome .standard () =
        WebDriver.start apart silent .chrome .standard () ∧
      ∃ url, apart.Offers "Chrome" url ∧
        ∀ other, apart.Reordered other → other.endpointFor "Chrome" = url := by
  have hreordered : apart.Reordered apartReordered := ⟨rfl, List.reverse_perm _⟩
  have hagree : apart.Agree "Chrome" := by unfold Agree; decide
  obtain ⟨-, hsettled, hstart⟩ := endpoint_settled_iff apart "Chrome"
  exact ⟨hreordered, rfl, hagree, hstart Unit silent .chrome .standard () _ hreordered rfl hagree,
    hsettled.mpr hagree⟩

/-- A configuration with two entries for one browser. -/
def twofold : String := "[webdriver]\nchrome = \"http://a\"\nChrome = \"http://b\"\n"

/-- In one order the browser is reached at the one, in another order at the other. -/
theorem endpoint_unsettled_twofold :
    ∃ config, Config.ofText twofold = .ok config ∧
      config.endpoints.endpointFor "Chrome" = "http://a" ∧
      ∃ other, config.endpoints.Reordered other ∧ other.endpointFor "Chrome" = "http://b" := by
  have hnamed : ((Config.ofText twofold).toOption.map fun config => config.endpoints.named) =
      some [("chrome", "http://a"), ("Chrome", "http://b")] := by decide +kernel
  cases hread : Config.ofText twofold with
  | error error =>
    rw [hread] at hnamed
    cases hnamed
  | ok config =>
    rw [hread] at hnamed
    have hentries : config.endpoints.named = [("chrome", "http://a"), ("Chrome", "http://b")] :=
      Option.some.inj hnamed
    have hfirst : IsFor "Chrome" ("chrome", "http://a") := by decide
    have hsecond : IsFor "Chrome" ("Chrome", "http://b") := by decide
    have hmem : ("Chrome", "http://b") ∈ config.endpoints.named := by
      rw [hentries]
      exact List.mem_cons_of_mem _ List.mem_cons_self
    refine ⟨config, rfl, ?_, (Offers.entry hmem hsecond).exists_reordered⟩
    exact endpointFor_of_first hentries hfirst (List.forall_mem_nil _)

end Endpoints

end PageCheck
