import ClientAccess.Proofs.Navigation.WayBack

/-! Addresses. Every location on a way through the table is canonical, so the place at its end is
found again under the address written for it. Whoever goes to that address under the same session
lands there at once; slashes that part no segments and a fragment change nothing. -/
namespace ClientAccess

namespace Path

theorem mem_segments_of_mem {path : String} {c : Char} (h : c ∈ path.toList) :
    c = '/' ∨ ∃ segment ∈ segments path, c ∈ segment := by
  have hjoin : ['/'].intercalate (path.toList.splitOn '/') = path.toList :=
    List.intercalate_splitOn '/'
  rw [← hjoin] at h
  rcases Text.mem_of_mem_intercalate h with h | ⟨piece, hpiece, hc⟩
  · exact .inl h
  · refine .inr ⟨piece, List.mem_filter.2 ⟨hpiece, ?_⟩, hc⟩
    cases piece with
    | nil => cases hc
    | cons d ds => rfl

theorem mem_of_segments_eq {p q : String} (hsame : segments p = segments q) {c : Char}
    (hslash : c ≠ '/') (h : c ∈ p.toList) : c ∈ q.toList := by
  rcases mem_segments_of_mem h with h | ⟨segment, hsegment, hc⟩
  · exact absurd h hslash
  · rw [hsame] at hsegment
    exact Text.mem_of_mem_splitOn (List.mem_filter.1 hsegment).1 hc

end Path

namespace Location

/-- A spelling of the address of a location: the path may have slashes too many or too few, and
there may be a fragment. -/
inductive Spells (l : Location) : String → Prop where
  | plain {path : String} (same : Path.segments path = Path.segments l.path) :
    Spells l (path ++ l.queryText)
  | withFragment {path : String} (same : Path.segments path = Path.segments l.path)
    (fragment : String) : Spells l (path ++ l.queryText ++ "#" ++ fragment)

variable {l : Location} {text : String}

theorem parse_of_segments_eq (h : l.IsCanonical) {path : String}
    (hsame : Path.segments path = Path.segments l.path) : parse (path ++ l.queryText) = l := by
  have hquery : '?' ∉ path.toList := fun hc =>
    h.noQuery (Path.mem_of_segments_eq hsame (by decide) hc)
  have hfragment : '#' ∉ path.toList := fun hc =>
    h.noFragment (Path.mem_of_segments_eq hsame (by decide) hc)
  rw [parse_append_queryText hquery hfragment, Path.normalize_congr hsame, h.canonical]

theorem Spells.parse_eq (hspells : l.Spells text) (h : l.IsCanonical) : parse text = l := by
  cases hspells with
  | plain same => exact parse_of_segments_eq h same
  | withFragment same fragment =>
    rw [parse_append_fragment]
    exact parse_of_segments_eq h same

end Location

/-- The places of the guard are paths, without a query or a fragment. -/
structure Guard.IsPlain (g : Guard) : Prop where
  login : '?' ∉ g.loginPath.toList ∧ '#' ∉ g.loginPath.toList
  default : '?' ∉ g.defaultPath.toList ∧ '#' ∉ g.defaultPath.toList
  root : '?' ∉ g.rootPath.toList ∧ '#' ∉ g.rootPath.toList

theorem Guard.IsPlain.isCanonical {g : Guard} (hplain : g.IsPlain) {decision : Decision}
    {next : Location} (h : decision.location? g = some next) : next.IsCanonical := by
  cases decision with
  | proceed => cases h
  | toLogin wayBack =>
    cases h
    exact (Location.isCanonical_ofPath hplain.login.1 hplain.login.2).of_path rfl
  | toDefault =>
    cases h
    exact Location.isCanonical_ofPath hplain.default.1 hplain.default.2
  | toRoot =>
    cases h
    exact Location.isCanonical_ofPath hplain.root.1 hplain.root.2

namespace Application

variable {app : Application} {who : Snapshot} {x y place : Location} {n : Nat} {target text : String}
  {s later : State}

theorem Redirects.isCanonical (h : app.Redirects who x y) (hplain : app.guard.IsPlain) :
    y.IsCanonical := by
  cases h with
  | byRecord known sends onward => exact onward.isCanonical
  | byGuard known stays sends => exact hplain.isCanonical sends

theorem Walk.isCanonical (h : app.Walk who n x y) (hplain : app.guard.IsPlain)
    (hx : x.IsCanonical) : y.IsCanonical := by
  induction h with
  | rest x => exact hx
  | move first more ih => exact ih (first.isCanonical hplain)

theorem landed_of_navigate (hplain : app.guard.IsPlain)
    (hok : (app.navigate target s).1 = .ok place) :
    place.IsCanonical ∧ app.hop s.snapshot place = .landed place := by
  obtain ⟨n, -, last, visit, hwalk, hres, hadmits, rfl⟩ := navigate_eq_ok_iff.1 hok
  have hlast : last.IsCanonical := hwalk.isCanonical hplain (Location.isCanonical_parse target)
  have hplace : visit.location = last := RouteTable.location_of_resolve hres hlast.canonical
  refine ⟨hplace ▸ hlast, (hop_eq_landed_iff _ _ _ _).2 ⟨visit, ?_, hadmits, rfl⟩⟩
  exact RouteTable.resolve_location hres

theorem navigate_eq_of_landed (h : app.hop s.snapshot (Location.parse target) = .landed place) :
    app.navigate target s = (.ok place, { s with current := some place }) := by
  rw [navigate_eq, hopsOf_of_landed h]
  simp [placeAfter]

/-- Where a navigation ends, its address leads, as long as the session is the same: the visitor is
there at once and is told nothing, whatever else has happened since. So does every other spelling of
the address. -/
theorem navigate_stays (app : Application) (hplain : app.guard.IsPlain) (target : String) (s : State)
    (place : Location) (hok : (app.navigate target s).1 = .ok place) (later : State)
    (hsame : later.snapshot = s.snapshot) :
    app.navigate place.fullPath later = (.ok place, { later with current := some place }) ∧
    ∀ text, place.Spells text →
      app.navigate text later = (.ok place, { later with current := some place }) := by
  obtain ⟨hcanonical, hlanded⟩ := landed_of_navigate hplain hok
  -- A hop sees nothing of the state but the snapshot.
  rw [← hsame] at hlanded
  constructor
  · refine navigate_eq_of_landed ?_
    rwa [Location.parse_fullPath hcanonical]
  · intro text hspells
    refine navigate_eq_of_landed ?_
    rwa [hspells.parse_eq hcanonical]

theorem navigate_stays_signed_out :
    standard.guard.IsPlain ∧
    (standard.navigate "users/?page=2&q=a b#top" (.ofStore (.inMemory .empty))).1 =
      .ok ⟨"/login", [("redirect", "/users?page=2&q=a%20b")]⟩ ∧
    standard.navigate "//login/?redirect=%2Fusers%3Fpage%3D2%26q%3Da%2520b#form"
        (.ofStore (.inMemory .empty)) =
      (.ok ⟨"/login", [("redirect", "/users?page=2&q=a%20b")]⟩,
        { State.ofStore (.inMemory .empty) with
          current := some ⟨"/login", [("redirect", "/users?page=2&q=a%20b")]⟩ }) := by
  have hplain : standard.guard.IsPlain := ⟨by decide, by decide, by decide⟩
  have hok : (standard.navigate "users/?page=2&q=a b#top" (.ofStore (.inMemory .empty))).1 =
      .ok ⟨"/login", [("redirect", "/users?page=2&q=a%20b")]⟩ := rfl
  have hspells : Location.Spells ⟨"/login", [("redirect", "/users?page=2&q=a%20b")]⟩
      "//login/?redirect=%2Fusers%3Fpage%3D2%26q%3Da%2520b#form" :=
    @Location.Spells.withFragment _ "//login/" rfl "form"
  obtain ⟨-, hstays⟩ := navigate_stays standard hplain _ _ _ hok (.ofStore (.inMemory .empty)) rfl
  exact ⟨hplain, hok, hstays _ hspells⟩

end Application

end ClientAccess
