import Wayfinding.Proofs.Router.Address

/-!
Where the URL on show leads. A URL under the base URL leads to the path that the rest of it
spells, in whatever way, and a navigation to the URL is the navigation to that path. Any other
URL leads nowhere: the navigation notes that and does nothing else.
-/

namespace Wayfinding
namespace Run

open Text.Percent (Spells SpellsOctets BeginsWithDigits)

variable {σ : Type} {site : Site σ}

theorem run_navigate_of_path {path : String} (navigateTo : Navigator σ)
    (h : site.router.pathOf? site.host.url = some path) :
    (navigate navigateTo).run site = ((·.map some) <$> navigateTo path).run site := by
  simp [navigate, h, Functor.map]

/-- A navigation to the URL on show goes to the path that the URL spells, and nowhere if the URL
is not under the base URL. -/
theorem navigate_reads_every_spelling (site : Site σ) (navigateTo : Navigator σ) :
    (∀ {path spelling : String}, Spells path.toList spelling.toList →
      site.host.url = site.router.baseUrl ++ "/" ++ spelling →
      (navigate navigateTo).run site = ((·.map some) <$> navigateTo path).run site) ∧
    ((∀ rest, site.host.url ≠ site.router.baseUrl ++ "/" ++ rest) →
      (navigate navigateTo).run site = some (.ok none, { site with
        journal := site.journal.push (.outside site.host.url site.router.baseUrl) })) := by
  constructor
  · intro path spelling hspells hurl
    apply run_navigate_of_path
    rw [hurl, Router.pathOf?_eq_some, Text.Percent.decode_of_spells hspells]
  · intro houtside
    exact yields_navigate_of_outside navigateTo (Router.pathOf?_eq_none houtside)

theorem spells_mixed : Spells ['é', '%', '\u212a', '%', '2']
    ['é', '%', '%', 'e', '2', '%', '8', '4', '%', 'A', 'A', '%', '2'] := by
  have hkelvin : SpellsOctets (String.utf8EncodeChar '\u212a')
      ['%', 'e', '2', '%', '8', '4', '%', 'A', 'A'] :=
    .cons (h := 14) (l := 2) rfl (by decide) (by decide) <|
      .cons (h := 8) (l := 4) rfl (by decide) (by decide) <|
        .cons (h := 10) (l := 10) rfl (by decide) (by decide) .nil
  have hpercent (rest : List Char) : ¬ BeginsWithDigits ('%' :: rest) := by
    rintro ⟨h, _, _, _, _, heq, hhigh, -⟩
    cases heq
    cases Text.hexValue?_eq_some_iff.mpr hhigh
  have hshort : ¬ BeginsWithDigits ['2'] := by
    rintro ⟨_, _, _, _, _, heq, -⟩
    cases heq
  have hdiffer {c : Char} {rest : List Char} (hc : c ≠ '%') :
      c = '%' → ¬ BeginsWithDigits rest := fun heq => absurd heq hc
  exact .plain (hdiffer (by decide)) <| .plain (fun _ => hpercent _) <| .escaped hkelvin <|
    .plain (fun _ => hshort) <| .plain (hdiffer (by decide)) .nil

/-- A raw letter of two octets, a percent sign before an escape, escapes in both cases, and a
percent sign with one digit behind it. -/
theorem navigate_reads_every_spelling_mixed :
    let site := unrulySite.setUrl "app/é%%e2%84%AA%2"
    let away := unrulySite.setUrl "appendix/k"
    Spells "é%\u212a%2".toList "é%%e2%84%AA%2".toList ∧
      (navigate (Run.navigateTo 2)).run site =
        ((·.map some) <$> Run.navigateTo 2 "é%\u212a%2").run site ∧
      ((navigate (Run.navigateTo 2)).run site).map (·.2.router.currentRoute) =
        some "é%\u212a%2" ∧
      (∀ rest, away.host.url ≠ away.router.baseUrl ++ "/" ++ rest) ∧
      (navigate (Run.navigateTo 2)).run away = some (.ok none, { away with
        journal := #[.outside "appendix/k" "app"] }) := by
  intro site away
  have hspells : Spells "é%\u212a%2".toList "é%%e2%84%AA%2".toList := by
    simp only [String.reduceToList]
    exact spells_mixed
  have hrun := (navigate_reads_every_spelling site (Run.navigateTo 2)).1 hspells rfl
  have houtside : ∀ rest, away.host.url ≠ away.router.baseUrl ++ "/" ++ rest := by
    intro rest heq
    have hchars := congrArg String.toList heq
    simp [away, Site.setUrl, Host.setUrl, unrulySite] at hchars
  refine ⟨hspells, hrun, ?_, houtside,
    (navigate_reads_every_spelling away (Run.navigateTo 2)).2 houtside⟩
  rw [hrun]
  decide +kernel

end Run
end Wayfinding
