import ClientAccess.Application
import ClientAccess.Proofs.Text.Trim
import ClientAccess.Settings

/-! The address that calls are put below. Settings and application each drop the slashes at its end,
and the second time there are none left; so the one slash between address and path is that of the
path, or the one put there for want of it. -/
namespace ClientAccess

theorem Path.isRooted_append {p : String} (hne : p ≠ "") (q : String) :
    isRooted (p ++ q) = isRooted p := by
  have hchars : p.toList ≠ [] := fun h => hne (String.toList_inj.1 h)
  rw [isRooted, String.toList_append, List.head?_append_of_ne_nil _ hchars]
  rfl

namespace Settings

variable {raw : Option String} {production : Bool} {v : String}

theorem resolveBaseUrl_of_blank (h : ∀ v, raw = some v → Text.trim v = "") :
    resolveBaseUrl raw production = if production then "" else localServer := by
  cases raw with
  | none => rfl
  | some v => simp [resolveBaseUrl, Option.filter, h v rfl]

theorem resolveBaseUrl_some (hne : Text.trim v ≠ "") : resolveBaseUrl (some v) production =
    if Path.isRooted (Text.trim v) then "" else Text.dropSlashes (Text.trim v) := by
  have hfilter : ((some v).map Text.trim).filter (· != "") = some (Text.trim v) := by
    simp [Option.filter, hne]
  rw [resolveBaseUrl, hfilter]
  rfl

theorem filled_or_blank (raw : Option String) :
    (∃ v, raw = some v ∧ Text.trim v ≠ "") ∨ ∀ v, raw = some v → Text.trim v = "" := by
  by_cases h : ∃ v, raw = some v ∧ Text.trim v ≠ ""
  · exact .inl h
  · refine .inr fun v hv => ?_
    by_contra hne
    exact h ⟨v, hv, hne⟩

theorem getLast?_resolveBaseUrl (raw : Option String) (production : Bool) :
    (resolveBaseUrl raw production).toList.getLast? ≠ some '/' := by
  obtain ⟨v, rfl, hne⟩ | hblank := filled_or_blank raw
  · rw [resolveBaseUrl_some hne]
    split
    · decide
    · exact Text.getLast?_dropSlashes _
  · rw [resolveBaseUrl_of_blank hblank]
    cases production <;> decide

theorem resolveBaseUrl_eq_empty_iff : resolveBaseUrl raw production = "" ↔
    (∃ v, raw = some v ∧ Path.isRooted (Text.trim v) = true) ∨
      production = true ∧ ∀ v, raw = some v → Text.trim v = "" := by
  obtain ⟨v, rfl, hne⟩ | hblank := filled_or_blank raw
  · have hnot : ¬ (production = true ∧ ∀ w, some v = some w → Text.trim w = "") :=
      fun h => hne (h.2 v rfl)
    rw [resolveBaseUrl_some hne, or_iff_left hnot]
    cases hroot : Path.isRooted (Text.trim v) with
    | true => simp [hroot]
    | false =>
      have hfirst : (Text.trim v).toList.head? ≠ some '/' := by
        simpa [Path.isRooted] using hroot
      simp [hroot, Text.dropSlashes_ne_empty hne hfirst]
  · have hnot : ¬ ∃ v, raw = some v ∧ Path.isRooted (Text.trim v) = true := by
      intro ⟨v, hv, hroot⟩
      rw [hblank v hv] at hroot
      cases hroot
    rw [resolveBaseUrl_of_blank hblank, or_iff_right hnot]
    cases production with
    | true => simpa using hblank
    | false => simp [localServer]

theorem resolveBaseUrl_append_slashes (hne : Text.trim v ≠ "")
    (hroot : Path.isRooted (Text.trim v) = false) (n : Nat) :
    resolveBaseUrl (some (Text.trim v ++ Text.slashes n)) production =
      resolveBaseUrl (some v) production := by
  have htrim := Text.trim_append_slashes v n
  have hlong : Text.trim (Text.trim v ++ Text.slashes n) ≠ "" := by
    rw [htrim]
    intro h
    exact hne (String.append_eq_empty_iff.1 h).1
  rw [resolveBaseUrl_some hlong, resolveBaseUrl_some hne, htrim, Path.isRooted_append hne, hroot,
    Text.dropSlashes_append_slashes]

end Settings

namespace Application

/-- The application puts paths below a base url, with a slash between the two that is the path's own
if it has one. -/
structure IsBelow (app : Application) (base : String) : Prop where
  kept : app.baseUrl = base
  bare : base = "" → ∀ path, app.urlFor path = path
  rooted : base ≠ "" → ∀ path, Path.isRooted path = true → app.urlFor path = base ++ path
  unrooted : base ≠ "" → ∀ path, Path.isRooted path = false →
    app.urlFor path = base ++ "/" ++ path
  spelling : base ≠ "" → ∀ path, Path.isRooted path = false →
    app.urlFor ("/" ++ path) = app.urlFor path

variable {app : Application} {path : String}

theorem urlFor_of_none (h : app.baseUrl = "") : app.urlFor path = path := by
  simp [urlFor, h]

theorem urlFor_of_rooted (h : app.baseUrl ≠ "") (hroot : Path.isRooted path = true) :
    app.urlFor path = app.baseUrl ++ path := by
  simp [urlFor, h, hroot]

theorem urlFor_of_unrooted (h : app.baseUrl ≠ "") (hroot : Path.isRooted path = false) :
    app.urlFor path = app.baseUrl ++ "/" ++ path := by
  simp [urlFor, h, hroot]

theorem isBelow_baseUrl (app : Application) : app.IsBelow app.baseUrl where
  kept := rfl
  bare := fun h _ => urlFor_of_none h
  rooted := fun h _ => urlFor_of_rooted h
  unrooted := fun h _ => urlFor_of_unrooted h
  spelling := by
    intro h path hroot
    have hslash : Path.isRooted ("/" ++ path) = true := by
      rw [Path.isRooted_append (by decide)]
      rfl
    rw [urlFor_of_rooted h hslash, urlFor_of_unrooted h hroot, String.append_assoc]

/-- The base url that a setting stands for does not end in a slash, and is empty for a rooted value
and, in production, where there is none. Slashes at the end of the value do not count. The
application on it keeps it as it is and puts every path below it. -/
theorem isBelow_resolveBaseUrl (raw : Option String) (production : Bool) :
    (Settings.resolveBaseUrl raw production).toList.getLast? ≠ some '/' ∧
    (Settings.resolveBaseUrl raw production = "" ↔
      (∃ v, raw = some v ∧ Path.isRooted (Text.trim v) = true) ∨
        production = true ∧ ∀ v, raw = some v → Text.trim v = "") ∧
    (∀ v n, raw = some v → Text.trim v ≠ "" → Path.isRooted (Text.trim v) = false →
      Settings.resolveBaseUrl (some (Text.trim v ++ Text.slashes n)) production =
        Settings.resolveBaseUrl raw production) ∧
    ∀ (table : RouteTable) (guard : Guard) (loginPath : String),
      (ofBaseUrl table guard (Settings.resolveBaseUrl raw production) loginPath).IsBelow
        (Settings.resolveBaseUrl raw production) := by
  have hlast := Settings.getLast?_resolveBaseUrl raw production
  refine ⟨hlast, Settings.resolveBaseUrl_eq_empty_iff, ?_, ?_⟩
  · intro v n hraw hne hroot
    rw [hraw]
    exact Settings.resolveBaseUrl_append_slashes hne hroot n
  · intro table guard loginPath
    have hkept : (ofBaseUrl table guard (Settings.resolveBaseUrl raw production)
        loginPath).baseUrl = Settings.resolveBaseUrl raw production :=
      Text.dropSlashes_eq_self hlast
    have hbelow := isBelow_baseUrl
      (ofBaseUrl table guard (Settings.resolveBaseUrl raw production) loginPath)
    rwa [hkept] at hbelow

example : (ofBaseUrl applicationTable .standard
    (Settings.resolveBaseUrl (some " http://host:9000// ") true) "/login").urlFor "orders" =
      "http://host:9000/orders" := by decide

end Application

end ClientAccess
