import ClientAccess.Proofs.Text.Digits
import ClientAccess.Proofs.Text.Trim
import ClientAccess.Settings

/-! Which environments have settings. The timeout is the only variable that may hold something that
makes no sense; whatever the others hold, it stands for a value. -/
namespace ClientAccess

namespace Settings

/-- A timeout as it may be written: decimal digits, noughts in front of them allowed, perhaps a plus
sign before and blanks around. -/
structure WritesTimeout (raw : String) (n : Nat) : Prop where
  written : ∃ (before sign : List Char) (ds : List Nat) (after : List Char),
    raw.toList = before ++ (sign ++ ds.map Nat.digitChar) ++ after ∧
    (∀ c ∈ before, Text.isBlank c = true) ∧ (sign = [] ∨ sign = ['+']) ∧
    ds ≠ [] ∧ (∀ d ∈ ds, d < 10) ∧ (∀ c ∈ after, Text.isBlank c = true) ∧
    n = Nat.ofDigits 10 ds.reverse
  positive : 1 ≤ n
  word : n ≤ 2 ^ 64 - 1

theorem exists_sign (cs : List Char) :
    ∃ sign, (sign = [] ∨ sign = ['+']) ∧ cs = sign ++ dropPlus cs := by
  unfold dropPlus
  split
  · exact ⟨['+'], .inr rfl, rfl⟩
  · exact ⟨[], .inl rfl, rfl⟩

theorem digitChar_plain : ∀ d < 10,
    Text.isBlank (Nat.digitChar d) = false ∧ Nat.digitChar d ≠ '+' := by decide

variable {sign : List Char} {ds : List Nat}

theorem dropPlus_digits (hsign : sign = [] ∨ sign = ['+']) (hds : ∀ d ∈ ds, d < 10) :
    dropPlus (sign ++ ds.map Nat.digitChar) = ds.map Nat.digitChar := by
  obtain rfl | rfl := hsign
  · cases ds with
    | nil => rfl
    | cons d ds =>
      obtain ⟨-, hplus⟩ := digitChar_plain d (hds d List.mem_cons_self)
      simp only [List.nil_append, List.map_cons]
      unfold dropPlus
      split
      · next h => exact absurd (List.cons.inj h).1 hplus
      · rfl
  · rfl

theorem isTrimmed_digits (hsign : sign = [] ∨ sign = ['+']) (hds : ∀ d ∈ ds, d < 10) :
    Text.IsTrimmed (sign ++ ds.map Nat.digitChar) := by
  have hdigit : ∀ c ∈ ds.map Nat.digitChar, Text.isBlank c = false := by
    intro c hc
    obtain ⟨d, hd, rfl⟩ := List.mem_map.1 hc
    exact (digitChar_plain d (hds d hd)).1
  have hall : ∀ c ∈ sign ++ ds.map Nat.digitChar, Text.isBlank c = false := by
    refine List.forall_mem_append.2 ⟨?_, hdigit⟩
    obtain rfl | rfl := hsign
    · exact List.forall_mem_nil _
    · exact List.forall_mem_singleton.2 rfl
  exact ⟨fun c hc => hall c (List.mem_of_mem_head? hc),
    fun c hc => hall c (List.mem_of_mem_getLast? hc)⟩

theorem readTimeout?_eq_some_iff {raw : String} {n : Nat} :
    readTimeout? raw = some n ↔ WritesTimeout raw n := by
  rw [readTimeout?, Option.filter_eq_some_iff, Text.readDigits?_eq_some_iff, Bool.and_eq_true,
    decide_eq_true_eq, decide_eq_true_eq]
  constructor
  · intro ⟨⟨ds, hds, hdigits, hn⟩, hpos, hlt⟩
    obtain ⟨-, before, after, hraw, hbefore, hafter⟩ := Text.trimChars_eq_iff.1
      (rfl : Text.trimChars raw.toList = _)
    obtain ⟨sign, hsign, hcore⟩ := exists_sign (Text.trimChars raw.toList)
    have hne : ds ≠ [] := by
      intro hnil
      rw [hn, hnil] at hpos
      exact absurd hpos (by decide)
    rw [hdigits] at hcore
    rw [hcore] at hraw
    exact ⟨⟨before, sign, ds, after, hraw, hbefore, hsign, hne, hds, hafter, hn⟩, hpos, by omega⟩
  · intro ⟨⟨before, sign, ds, after, hraw, hbefore, hsign, _, hds, hafter, hn⟩, hpos, hword⟩
    have hcore : Text.trimChars raw.toList = sign ++ ds.map Nat.digitChar :=
      Text.trimChars_eq_iff.2
        ⟨isTrimmed_digits hsign hds, before, after, hraw, hbefore, hafter⟩
    rw [hcore, dropPlus_digits hsign hds]
    exact ⟨⟨ds, hds, rfl, hn⟩, hpos, by omega⟩

example : readTimeout? "\u00a0+0018446744073709551615 " = some 18446744073709551615 ∧
    readTimeout? "18446744073709551616" = none := by decide

theorem readBool?_eq_some_true_iff (raw : String) : readBool? raw = some true ↔
    Text.lowerAscii (Text.trim raw) ∈ ["1", "true", "yes", "on"] := by
  unfold readBool?
  simp only [List.contains_iff_mem]
  split
  · next h => simp [h]
  · next h =>
    split
    · simp [h]
    · simp [h]

def AsksTimeout (env : Environment) (n : Nat) : Prop :=
  env timeoutVariable = none ∧ n = 10 ∨ ∃ raw, env timeoutVariable = some raw ∧ WritesTimeout raw n

/-- What the variables of an environment ask for. -/
structure Follows (env : Environment) (s : Settings) : Prop where
  timeout : AsksTimeout env s.timeoutSeconds
  production : s.production = true ↔ ∃ raw, env productionVariable = some raw ∧
    Text.lowerAscii (Text.trim raw) ∈ ["1", "true", "yes", "on"]
  baseUrl : s.baseUrl = resolveBaseUrl (env baseUrlVariable) s.production
  sessionFile : ∀ raw, env sessionFileVariable = some raw →
    (∃ c ∈ raw.toList, Text.isBlank c = false) → s.sessionFile = raw
  noSessionFile : (∀ raw, env sessionFileVariable = some raw →
    ∀ c ∈ raw.toList, Text.isBlank c = true) → s.sessionFile = defaultSessionFile

variable {env : Environment} {s t : Settings} {n : Nat}

theorem production_withTimeout_iff (env : Environment) (n : Nat) :
    (withTimeout env n).production = true ↔ ∃ raw, env productionVariable = some raw ∧
      Text.lowerAscii (Text.trim raw) ∈ ["1", "true", "yes", "on"] := by
  have hproduction : (withTimeout env n).production = true ↔
      (env productionVariable).bind readBool? = some true := by
    rw [withTimeout]
    cases (env productionVariable).bind readBool? <;> simp
  rw [hproduction, Option.bind_eq_some_iff]
  simp only [readBool?_eq_some_true_iff]

theorem follows_withTimeout (h : AsksTimeout env n) : Follows env (withTimeout env n) where
  timeout := h
  production := production_withTimeout_iff env n
  baseUrl := rfl
  sessionFile := by
    intro raw hraw ⟨c, hc, hplain⟩
    have hfull : Text.isBlankText raw = false := by
      rw [Bool.eq_false_iff, ne_eq, Text.isBlankText_iff]
      intro hblank
      rw [hblank c hc] at hplain
      cases hplain
    simp [withTimeout, hraw, Option.filter, hfull]
  noSessionFile := by
    intro hblank
    cases hraw : env sessionFileVariable with
    | none => simp [withTimeout, hraw]
    | some raw =>
      have hempty := (Text.isBlankText_iff raw).2 (hblank raw hraw)
      simp [withTimeout, hraw, Option.filter, hempty]

theorem Follows.eq_of_timeout (hs : Follows env s) (ht : Follows env t)
    (htimeout : s.timeoutSeconds = t.timeoutSeconds) : s = t := by
  have hproduction : s.production = t.production :=
    Bool.eq_iff_iff.2 (hs.production.trans ht.production.symm)
  have hbase : s.baseUrl = t.baseUrl := by rw [hs.baseUrl, ht.baseUrl, hproduction]
  have hfile : s.sessionFile = t.sessionFile := by
    by_cases hfull : ∃ raw, env sessionFileVariable = some raw ∧
        ∃ c ∈ raw.toList, Text.isBlank c = false
    · obtain ⟨raw, hraw, hc⟩ := hfull
      rw [hs.sessionFile raw hraw hc, ht.sessionFile raw hraw hc]
    · have hblank : ∀ raw, env sessionFileVariable = some raw →
          ∀ c ∈ raw.toList, Text.isBlank c = true := by
        intro raw hraw c hc
        rw [← Bool.not_eq_false]
        exact fun hplain => hfull ⟨raw, hraw, c, hc, hplain⟩
      rw [hs.noSessionFile hblank, ht.noSessionFile hblank]
  cases s
  cases t
  simp only at hproduction hbase hfile htimeout
  rw [hproduction, hbase, hfile, htimeout]

theorem ofEnvironment_of_timeout (h : AsksTimeout env n) :
    ofEnvironment env = .ok (withTimeout env n) := by
  obtain ⟨hunset, rfl⟩ | ⟨raw, hset, hwrites⟩ := h
  · simp only [ofEnvironment, hunset]
  · simp only [ofEnvironment, hset, readTimeout?_eq_some_iff.2 hwrites]

theorem asksTimeout_or_error (env : Environment) : (∃ n, AsksTimeout env n) ∨
    ∃ raw, env timeoutVariable = some raw ∧ (∀ n, ¬ WritesTimeout raw n) ∧
      ofEnvironment env = .error ⟨timeoutVariable, raw⟩ := by
  cases hset : env timeoutVariable with
  | none => exact .inl ⟨10, .inl ⟨hset, rfl⟩⟩
  | some raw =>
    cases hread : readTimeout? raw with
    | some n => exact .inl ⟨n, .inr ⟨raw, hset, readTimeout?_eq_some_iff.1 hread⟩⟩
    | none =>
      refine .inr ⟨raw, rfl, ?_, ?_⟩
      · intro n hwrites
        rw [readTimeout?_eq_some_iff.2 hwrites] at hread
        cases hread
      · simp only [ofEnvironment, hset, hread]

theorem ofEnvironment_eq_error_iff {fault : Fault} :
    ofEnvironment env = .error fault ↔ fault.variableName = timeoutVariable ∧
      env timeoutVariable = some fault.value ∧ ∀ n, ¬ WritesTimeout fault.value n := by
  obtain ⟨n, hasks⟩ | ⟨raw, hset, hwrong, herror⟩ := asksTimeout_or_error env
  · rw [ofEnvironment_of_timeout hasks]
    refine ⟨by simp, ?_⟩
    intro ⟨_, hset, hwrong⟩
    obtain ⟨hunset, -⟩ | ⟨raw, hraw, hwrites⟩ := hasks
    · rw [hunset] at hset
      cases hset
    · rw [hset, Option.some.injEq] at hraw
      exact absurd hwrites (hraw ▸ hwrong n)
  · rw [herror, Except.error.injEq, hset, Option.some.injEq]
    constructor
    · intro h
      cases h
      exact ⟨rfl, rfl, hwrong⟩
    · intro ⟨hname, hvalue, _⟩
      cases fault
      simp only at hname hvalue
      rw [hname, hvalue]

theorem ofEnvironment_eq_ok_iff : ofEnvironment env = .ok s ↔ Follows env s := by
  constructor
  · intro h
    obtain ⟨n, hasks⟩ | ⟨raw, -, -, herror⟩ := asksTimeout_or_error env
    · rw [ofEnvironment_of_timeout hasks] at h
      cases h
      exact follows_withTimeout hasks
    · rw [herror] at h
      cases h
  · intro h
    rw [ofEnvironment_of_timeout h.timeout,
      (follows_withTimeout h.timeout).eq_of_timeout h rfl]

/-- An environment has settings unless its timeout is set to something that writes no number of
seconds, and then the text of the timeout is reported as it is, blanks included. The settings are
what its variables ask for. -/
theorem ofEnvironment_accepts (env : Environment) :
    (∀ fault, ofEnvironment env = .error fault ↔ fault.variableName = timeoutVariable ∧
      env timeoutVariable = some fault.value ∧ ∀ n, ¬ WritesTimeout fault.value n) ∧
    ∀ s, ofEnvironment env = .ok s ↔ Follows env s :=
  ⟨fun _ => ofEnvironment_eq_error_iff, fun _ => ofEnvironment_eq_ok_iff⟩

end Settings

end ClientAccess
