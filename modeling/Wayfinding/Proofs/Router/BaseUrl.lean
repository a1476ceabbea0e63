import Wayfinding.Proofs.Router.Location

/-!
Where the base URL comes from. A configured one is taken as it is, and else one that the host
knows; failing both, it is the shortest prefix of the host's URL that ends with the name of the
application, and there is none if the name is empty or does not occur. A derived base URL is cut
at the name and not at a slash, so the very URL that it was derived from may lead nowhere.
-/

namespace Wayfinding

/-- The shortest prefix of a text that ends with a name. -/
structure IsShortestThrough (name text base : List Char) : Prop where
  starts : base <+: text
  ends : name <:+ base
  shortest : ∀ {other : List Char}, other <+: text → name <:+ other → base.length ≤ other.length

theorem IsShortestThrough.of_starts {name text : List Char} (h : name <+: text) :
    IsShortestThrough name text name :=
  ⟨h, List.suffix_rfl, fun _ hends => hends.length_le⟩

theorem IsShortestThrough.cons {name text base : List Char} {c : Char}
    (h : IsShortestThrough name text base) (hname : ¬ name <+: c :: text) :
    IsShortestThrough name (c :: text) (c :: base) := by
  refine ⟨List.cons_prefix_cons.mpr ⟨rfl, h.starts⟩, h.ends.trans (List.suffix_cons c base), ?_⟩
  intro other hstarts hends
  cases other with
  | nil =>
      obtain rfl := List.suffix_nil.mp hends
      exact absurd List.nil_prefix hname
  | cons d other =>
      cases List.suffix_cons_iff.mp hends with
      | inl hwhole => exact absurd (hwhole ▸ hstarts) hname
      | inr hlater =>
          exact Nat.succ_le_succ (h.shortest (List.cons_prefix_cons.mp hstarts).2 hlater)

theorem throughFirst?_spec (name text : List Char) :
    match throughFirst? name text with
    | some base => IsShortestThrough name text base ∧ name <:+: text
    | none => ¬ name <:+: text := by
  induction text with
  | nil =>
      cases name with
      | nil => exact ⟨.of_starts List.nil_prefix, List.nil_infix⟩
      | cons c name => exact fun h => nomatch List.eq_nil_of_infix_nil h
  | cons c text ih =>
      rw [throughFirst?]
      by_cases hname : name.isPrefixOf (c :: text) = true
      · rw [if_pos hname]
        have hstarts := List.isPrefixOf_iff_prefix.mp hname
        exact ⟨.of_starts hstarts, hstarts.isInfix⟩
      · rw [if_neg hname]
        have hstarts : ¬ name <+: c :: text := fun h => hname (List.isPrefixOf_iff_prefix.mpr h)
        cases hrest : throughFirst? name text with
        | none =>
            rw [hrest] at ih
            intro hinfix
            cases List.infix_cons_iff.mp hinfix with
            | inl h => exact hstarts h
            | inr h => exact ih h
        | some base =>
            rw [hrest] at ih
            exact ⟨ih.1.cons hstarts, List.infix_cons ih.2⟩

/-- The application has a name, and the name occurs in the URL. -/
def Host.NamesApplication (host : Host) : Prop :=
  host.application ≠ "" ∧ host.application.toList <:+: host.url.toList

/-- Whether a URL ends with its beginning or goes on with something else than a slash. -/
def StopsAt (base url : List Char) : Prop :=
  url = base ∨ ∃ c rest, c ≠ '/' ∧ url = base ++ c :: rest

theorem Router.pathOf?_eq_none_iff {σ : Type} {router : Router σ} {url : String}
    (h : router.baseUrl.toList <+: url.toList) :
    router.pathOf? url = none ↔ StopsAt router.baseUrl.toList url.toList := by
  obtain ⟨tail, htail⟩ := h
  rw [← htail]
  constructor
  · intro hnone
    cases tail with
    | nil => exact .inl (List.append_nil _)
    | cons c rest =>
        refine .inr ⟨c, rest, ?_, rfl⟩
        rintro rfl
        have hurl : url = router.baseUrl ++ "/" ++ String.ofList rest := by
          apply String.toList_inj.mp
          simp [← htail]
        rw [hurl, pathOf?_eq_some] at hnone
        cases hnone
  · intro hstops
    apply pathOf?_eq_none
    rintro spelling rfl
    simp only [String.toList_append, List.append_assoc, List.append_cancel_left_eq] at htail
    subst htail
    cases hstops with
    | inl hends => simp at hends
    | inr hgoes =>
        obtain ⟨c, rest, hc, hgoes⟩ := hgoes
        simp at hgoes
        exact hc hgoes.1.symm

namespace Run

variable {σ : Type} {site : Site σ}

theorem exists_yields_navigate_none_iff (navigateTo : Navigator σ) :
    (∃ site', Yields (navigate navigateTo) site (.ok none) site') ↔
      site.router.pathOf? site.host.url = none := by
  cases hpath : site.router.pathOf? site.host.url with
  | none => exact iff_of_true ⟨_, yields_navigate_of_outside navigateTo hpath⟩ rfl
  | some path =>
      refine iff_of_false ?_ (Option.some_ne_none path)
      rintro ⟨site', hyields⟩
      simp only [navigate, yields_bind, yields_get] at hyields
      obtain ⟨_, _, ⟨rfl, rfl⟩, hyields⟩ := hyields
      simp only [hpath, yields_bind, yields_pure] at hyields
      obtain ⟨outcome, _, -, houtcome, -⟩ := hyields
      cases outcome <;> cases houtcome

end Run

namespace Site

open Run (Yields)

variable {σ : Type} {configuration : Configuration} {host : Host}

theorem create_of_resolved (client : σ) {url : String}
    (h : resolveBaseUrl configuration host = .ok url) :
    ∃ site, create configuration host client = .ok site ∧ site.router.baseUrl = url ∧
      site.host = host := by
  rw [create, h]
  exact ⟨_, rfl, rfl, rfl⟩

theorem create_of_unresolved (client : σ) {error : BaseUrlError}
    (h : resolveBaseUrl configuration host = .error error) :
    create configuration host client = .error error := by
  rw [create, h]
  rfl

theorem resolveBaseUrl_of_configured (host : Host) {url : String}
    (h : configuration.baseUrl = some url) :
    resolveBaseUrl configuration host = .ok url := by
  rw [resolveBaseUrl, h]
  rfl

theorem resolveBaseUrl_of_cached {url : String} (hnone : configuration.baseUrl = none)
    (h : host.cachedBaseUrl = some url) : resolveBaseUrl configuration host = .ok url := by
  rw [resolveBaseUrl, hnone, h]
  rfl

section Derived

variable (hconfigured : configuration.baseUrl = none) (hcached : host.cachedBaseUrl = none)

include hconfigured hcached

theorem resolveBaseUrl_of_named (h : host.NamesApplication) :
    ∃ url, resolveBaseUrl configuration host = .ok url ∧
      IsShortestThrough host.application.toList host.url.toList url.toList := by
  have hspec := throughFirst?_spec host.application.toList host.url.toList
  rw [resolveBaseUrl, hconfigured, hcached]
  cases hfirst : throughFirst? host.application.toList host.url.toList with
  | none =>
      rw [hfirst] at hspec
      exact absurd h.2 hspec
  | some base =>
      rw [hfirst] at hspec
      refine ⟨String.ofList base, ?_, ?_⟩
      · simp [h.1]
      · rw [String.toList_ofList]
        exact hspec.1

theorem resolveBaseUrl_of_not_named (h : ¬ host.NamesApplication) :
    resolveBaseUrl configuration host = .error ⟨host.url, host.application⟩ := by
  have hspec := throughFirst?_spec host.application.toList host.url.toList
  rw [resolveBaseUrl, hconfigured, hcached]
  cases hfirst : throughFirst? host.application.toList host.url.toList with
  | none => rfl
  | some base =>
      rw [hfirst] at hspec
      have hunnamed : host.application = "" := by
        by_contra hname
        exact h ⟨hname, hspec.2⟩
      simp [hunnamed]

end Derived

/-- The base URL of a new router, and whether the URL that it was derived from leads anywhere as
long as it is the one on show. -/
theorem create_resolves_baseUrl (configuration : Configuration) (host : Host) (client : σ) :
    (∀ url, configuration.baseUrl = some url →
      ∃ site, create configuration host client = .ok site ∧ site.router.baseUrl = url) ∧
    (∀ url, configuration.baseUrl = none → host.cachedBaseUrl = some url →
      ∃ site, create configuration host client = .ok site ∧ site.router.baseUrl = url) ∧
    (configuration.baseUrl = none → host.cachedBaseUrl = none →
      (host.NamesApplication → ∃ site, create configuration host client = .ok site ∧
        IsShortestThrough host.application.toList host.url.toList site.router.baseUrl.toList ∧
        site.host = host ∧
        ∀ now, site.Leads now → now.host.url = host.url → ∀ navigateTo : Navigator σ,
          ((∃ now', Yields (Run.navigate navigateTo) now (.ok none) now') ↔
            StopsAt site.router.baseUrl.toList host.url.toList)) ∧
      (¬ host.NamesApplication →
        create configuration host client = .error ⟨host.url, host.application⟩)) := by
  refine ⟨fun url hurl => ?_, fun url hnone hurl => ?_, fun hconfigured hcached => ⟨?_, ?_⟩⟩
  · obtain ⟨site, hsite, hbase, -⟩ := create_of_resolved client
      (resolveBaseUrl_of_configured host hurl)
    exact ⟨site, hsite, hbase⟩
  · obtain ⟨site, hsite, hbase, -⟩ := create_of_resolved client
      (resolveBaseUrl_of_cached hnone hurl)
    exact ⟨site, hsite, hbase⟩
  · intro hnamed
    obtain ⟨url, hresolved, hshortest⟩ := resolveBaseUrl_of_named hconfigured hcached hnamed
    obtain ⟨site, hsite, rfl, hhost⟩ := create_of_resolved client hresolved
    refine ⟨site, hsite, hshortest, hhost, fun now hleads hurl navigateTo => ?_⟩
    rw [Run.exists_yields_navigate_none_iff, hurl, ← hleads.baseUrl_eq]
    apply Router.pathOf?_eq_none_iff
    rw [hleads.baseUrl_eq]
    exact hshortest.starts
  · exact fun hunnamed =>
      create_of_unresolved client (resolveBaseUrl_of_not_named hconfigured hcached hunnamed)

/-- The name occurs twice, and a part of it right before the first time. -/
def overlapHost : Host := ⟨"apapp.org/app", "app", none, #[]⟩

/-- The base URL is cut in the middle of a word, so its own URL leads nowhere. -/
theorem create_resolves_baseUrl_overlap :
    (∃ site, create ⟨some "b", .collect⟩ overlapHost () = .ok site ∧
      site.router.baseUrl = "b") ∧
    (∃ site, create ⟨none, .collect⟩ { overlapHost with cachedBaseUrl := some "c" } () = .ok site ∧
      site.router.baseUrl = "c") ∧
    overlapHost.NamesApplication ∧
    (∃ site, create ⟨none, .abort⟩ overlapHost () = .ok site ∧ site.router.baseUrl = "apapp" ∧
      ∃ now, Yields (Run.navigate (Run.navigateTo 1)) site (.ok none) now) ∧
    ¬ Host.NamesApplication { overlapHost with application := "" } ∧
    create ⟨none, .abort⟩ { overlapHost with application := "" } () =
      .error ⟨"apapp.org/app", ""⟩ := by
  have hnamed : overlapHost.NamesApplication :=
    ⟨by decide, ['a', 'p'], ['.', 'o', 'r', 'g', '/', 'a', 'p', 'p'], by decide +kernel⟩
  have hunnamed : ¬ Host.NamesApplication { overlapHost with application := "" } :=
    fun h => h.1 rfl
  refine ⟨(create_resolves_baseUrl _ _ _).1 _ rfl, (create_resolves_baseUrl _ _ _).2.1 _ rfl rfl,
    hnamed, ?_, hunnamed, ((create_resolves_baseUrl _ _ _).2.2 rfl rfl).2 hunnamed⟩
  obtain ⟨site, hsite, -, hhost, hnowhere⟩ :=
    ((create_resolves_baseUrl ⟨none, .abort⟩ overlapHost ()).2.2 rfl rfl).1 hnamed
  have hresolved : resolveBaseUrl ⟨none, .abort⟩ overlapHost = .ok "apapp" := by rfl
  obtain ⟨_, hsite', hbase, -⟩ := create_of_resolved () hresolved
  obtain rfl := Except.ok.inj (hsite.symm.trans hsite')
  have hstops : StopsAt site.router.baseUrl.toList overlapHost.url.toList := by
    rw [hbase]
    exact .inr ⟨'.', ['o', 'r', 'g', '/', 'a', 'p', 'p'], by decide, by decide +kernel⟩
  exact ⟨site, hsite, hbase, (hnowhere site (.refl site) (by rw [hhost]) _).mpr hstops⟩

end Site
end Wayfinding
