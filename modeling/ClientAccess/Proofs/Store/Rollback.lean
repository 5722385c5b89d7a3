import ClientAccess.Proofs.Entries
import ClientAccess.Session
import ClientAccess.Store.Batch

/-! Batches that are taken back. A batch is written up to the first pair that is rejected; the keys
written until then are removed, not restored. So nothing of a rejected batch is left behind, but what
was under its first keys before is lost, and the keys of a batch may come apart. -/
namespace ClientAccess

namespace Entries

variable {α : Type}

theorem eraseAll_insertAll (e : Entries α) (pairs : List (String × α)) :
    (e.insertAll pairs).eraseAll (pairs.map Prod.fst) = e.eraseAll (pairs.map Prod.fst) := by
  apply ext_get?
  intro k
  rw [get?_eraseAll, get?_eraseAll, get?_insertAll]
  by_cases hk : k ∈ pairs.map Prod.fst
  · rw [if_pos hk, if_pos hk]
  · have hnone : find? k pairs.reverse = none := by
      rw [find?_eq_none_iff]
      intro p hp hkey
      exact hk (hkey ▸ List.mem_map_of_mem (List.mem_reverse.1 hp))
    rw [if_neg hk, if_neg hk, hnone, Option.none_or]

theorem isSome_get?_insertAll {e : Entries α} {pairs : List (String × α)} {k : String}
    (hk : k ∈ pairs.map Prod.fst) : ((e.insertAll pairs).get? k).isSome := by
  rw [get?_insertAll, Option.isSome_or, Bool.or_eq_true]
  left
  rw [Option.isSome_iff_ne_none, Ne, find?_eq_none_iff]
  intro hnone
  obtain ⟨p, hp, hkey⟩ := List.mem_map.1 hk
  exact hnone p (List.mem_reverse.2 hp) hkey

def Uniform (e : Entries α) (keys : List String) : Prop :=
  (∀ key ∈ keys, (e.get? key).isSome) ∨ ∀ key ∈ keys, e.get? key = none

end Entries

namespace Batch

open Session (tokenKey userKey)

namespace Backend

variable {σ : Type} (backend : Backend σ)

def after (s : σ) (pairs : List (String × String)) : σ :=
  pairs.foldl (fun s p => (backend.write s p.1 p.2).2) s

def accepted (s : σ) : List (String × String) → List (String × String)
  | [] => []
  | p :: rest =>
    if (backend.write s p.1 p.2).1 then p :: accepted (backend.write s p.1 p.2).2 rest else []

theorem accepted_prefix (s : σ) (pairs : List (String × String)) :
    backend.accepted s pairs <+: pairs := by
  induction pairs generalizing s with
  | nil => exact List.prefix_refl []
  | cons p rest ih =>
    rw [accepted]
    split
    · exact (List.prefix_cons_inj p).2 (ih _)
    · exact List.nil_prefix

/-- A batch either is accepted as a whole, or it stops at a pair that is rejected after all those
before it have been written, and then exactly the keys of those are undone. -/
theorem writeFrom_cases (written : List String) (s : σ) (pairs : List (String × String)) :
    backend.accepted s pairs = pairs ∧
      backend.writeFrom written s pairs = (true, backend.after s pairs) ∨
    ∃ p back, pairs = backend.accepted s pairs ++ p :: back ∧
      (backend.write (backend.after s (backend.accepted s pairs)) p.1 p.2).1 = false ∧
      backend.writeFrom written s pairs =
        (false, (written ++ (backend.accepted s pairs).map Prod.fst).foldl backend.undo
          (backend.write (backend.after s (backend.accepted s pairs)) p.1 p.2).2) := by
  induction pairs generalizing written s with
  | nil => exact .inl ⟨rfl, rfl⟩
  | cons p rest ih =>
    cases hwrite : (backend.write s p.1 p.2).1 with
    | false =>
      have hnone : backend.accepted s (p :: rest) = [] := by simp [accepted, hwrite]
      rw [hnone]
      refine .inr ⟨p, rest, rfl, hwrite, ?_⟩
      simp [writeFrom, hwrite, after]
    | true =>
      have hfirst : backend.accepted s (p :: rest) =
          p :: backend.accepted (backend.write s p.1 p.2).2 rest := by simp [accepted, hwrite]
      have hstep : backend.writeFrom written s (p :: rest) =
          backend.writeFrom (written ++ [p.1]) (backend.write s p.1 p.2).2 rest := by
        simp [writeFrom, hwrite]
      rw [hfirst, hstep]
      rcases ih (written ++ [p.1]) (backend.write s p.1 p.2).2 with
        ⟨hall, hrun⟩ | ⟨q, back, hsplit, hrejected, hrun⟩
      · rw [hall]
        exact .inl ⟨rfl, hrun⟩
      · refine .inr ⟨q, back, congrArg (p :: ·) hsplit, hrejected, ?_⟩
        rw [hrun, List.append_assoc]
        rfl

theorem writeAll_cases (s : σ) (pairs : List (String × String)) :
    backend.accepted s pairs = pairs ∧
      backend.writeAll s pairs = (true, backend.after s pairs) ∨
    ∃ p back, pairs = backend.accepted s pairs ++ p :: back ∧
      (backend.write (backend.after s (backend.accepted s pairs)) p.1 p.2).1 = false ∧
      backend.writeAll s pairs =
        (false, ((backend.accepted s pairs).map Prod.fst).foldl backend.undo
          (backend.write (backend.after s (backend.accepted s pairs)) p.1 p.2).2) :=
  backend.writeFrom_cases [] s pairs

/-- A backend that keeps a map: an accepted write stores the pair, a rejected one does nothing, and
undoing removes the key. Which writes it accepts is left open. -/
structure Keeps (view : σ → Entries String) : Prop where
  accepted (s : σ) (key value : String) (h : (backend.write s key value).1 = true) :
    view (backend.write s key value).2 = (view s).insert key value
  rejected (s : σ) (key value : String) (h : (backend.write s key value).1 = false) :
    view (backend.write s key value).2 = view s
  undone (s : σ) (key : String) : view (backend.undo s key) = (view s).erase key

variable {backend} {view : σ → Entries String}

theorem Keeps.view_after (h : backend.Keeps view) (s : σ) (pairs : List (String × String)) :
    view (backend.after s (backend.accepted s pairs)) =
      (view s).insertAll (backend.accepted s pairs) := by
  induction pairs generalizing s with
  | nil => rfl
  | cons p rest ih =>
    cases hwrite : (backend.write s p.1 p.2).1 with
    | false =>
      have hnone : backend.accepted s (p :: rest) = [] := by simp [Backend.accepted, hwrite]
      rw [hnone]
      rfl
    | true =>
      have hfirst : backend.accepted s (p :: rest) =
          p :: backend.accepted (backend.write s p.1 p.2).2 rest := by
        simp [Backend.accepted, hwrite]
      have hrest := ih (backend.write s p.1 p.2).2
      rw [h.accepted s p.1 p.2 hwrite] at hrest
      rw [hfirst]
      exact hrest

theorem Keeps.view_undo (h : backend.Keeps view) (s : σ) (keys : List String) :
    view (keys.foldl backend.undo s) = (view s).eraseAll keys := by
  induction keys generalizing s with
  | nil => rfl
  | cons key keys ih =>
    have hrest := ih (backend.undo s key)
    rw [h.undone] at hrest
    exact hrest

theorem Keeps.view_writeAll (h : backend.Keeps view) (s : σ) (pairs : List (String × String)) :
    (backend.writeAll s pairs).1 = true ∧ backend.accepted s pairs = pairs ∧
      view (backend.writeAll s pairs).2 = (view s).insertAll pairs ∨
    (backend.writeAll s pairs).1 = false ∧
      (∃ p back, pairs = backend.accepted s pairs ++ p :: back) ∧
      view (backend.writeAll s pairs).2 =
        (view s).eraseAll ((backend.accepted s pairs).map Prod.fst) := by
  have hafter := h.view_after s pairs
  rcases backend.writeAll_cases s pairs with ⟨hall, hrun⟩ | ⟨p, back, hsplit, hrejected, hrun⟩
  · rw [hall] at hafter
    rw [hrun]
    exact .inl ⟨rfl, hall, hafter⟩
  · rw [hrun]
    refine .inr ⟨rfl, ⟨p, back, hsplit⟩, ?_⟩
    rw [h.view_undo, h.rejected _ _ _ hrejected, hafter, Entries.eraseAll_insertAll]

end Backend

variable {accepts : String → String → Bool}

theorem recording_of_accepts {key value : String} (h : accepts key value = true) (r : Record) :
    (recording accepts).write r key value =
      (true, ⟨r.events ++ [.write key value], r.entries.insert key value⟩) := by
  simp [recording, h]

theorem recording_of_rejects {key value : String} (h : accepts key value = false) (r : Record) :
    (recording accepts).write r key value =
      (false, ⟨r.events ++ [.rejected key value], r.entries⟩) := by
  simp [recording, h]

theorem recording_accepted (r : Record) (key value : String) :
    ((recording accepts).write r key value).1 = accepts key value := by
  cases h : accepts key value with
  | true => rw [recording_of_accepts h]
  | false => rw [recording_of_rejects h]

theorem keeps_recording (accepts : String → String → Bool) :
    (recording accepts).Keeps Record.entries where
  accepted r key value h := by
    rw [recording_accepted] at h
    rw [recording_of_accepts h]
  rejected r key value h := by
    rw [recording_accepted] at h
    rw [recording_of_rejects h]
  undone _ _ := rfl

theorem accepts_of_mem_accepted (r : Record) {pairs : List (String × String)}
    {p : String × String} (h : p ∈ (recording accepts).accepted r pairs) :
    accepts p.1 p.2 = true := by
  induction pairs generalizing r with
  | nil => cases h
  | cons q rest ih =>
    rw [Backend.accepted, recording_accepted] at h
    split at h
    · next hq =>
      rcases List.mem_cons.1 h with rfl | h
      · exact hq
      · exact ih _ h
    · cases h

theorem after_recording (r : Record) {pairs : List (String × String)}
    (h : ∀ p ∈ pairs, accepts p.1 p.2 = true) :
    (recording accepts).after r pairs =
      ⟨r.events ++ pairs.map fun p => .write p.1 p.2, r.entries.insertAll pairs⟩ := by
  induction pairs generalizing r with
  | nil => simp [Backend.after, Entries.insertAll]
  | cons p rest ih =>
    obtain ⟨hp, hrest⟩ := List.forall_mem_cons.1 h
    have hstep : (recording accepts).after r (p :: rest) =
        (recording accepts).after ((recording accepts).write r p.1 p.2).2 rest := rfl
    rw [hstep, recording_of_accepts hp, ih _ hrest]
    simp [Entries.insertAll]

theorem undo_recording (r : Record) (keys : List String) :
    keys.foldl (recording accepts).undo r =
      ⟨r.events ++ keys.map .undo, r.entries.eraseAll keys⟩ := by
  induction keys generalizing r with
  | nil => simp [Entries.eraseAll]
  | cons key keys ih =>
    rw [List.foldl_cons, ih]
    simp [recording, Entries.eraseAll]

theorem write_cases (accepts : String → String → Bool) (e : Entries String)
    (pairs : List (String × String)) :
    (∀ p ∈ pairs, accepts p.1 p.2 = true) ∧
      write accepts e pairs =
        ⟨⟨pairs.map fun p => .write p.1 p.2, e.insertAll pairs⟩, true⟩ ∨
    ∃ front p back, pairs = front ++ p :: back ∧
      (∀ q ∈ front, accepts q.1 q.2 = true) ∧ accepts p.1 p.2 = false ∧
      write accepts e pairs =
        ⟨⟨(front.map fun q => .write q.1 q.2) ++
            .rejected p.1 p.2 :: front.map fun q => .undo q.1,
          e.eraseAll (front.map Prod.fst)⟩, false⟩ := by
  have htaken : ∀ p ∈ (recording accepts).accepted ⟨[], e⟩ pairs, accepts p.1 p.2 = true :=
    fun p => accepts_of_mem_accepted ⟨[], e⟩
  rcases (recording accepts).writeAll_cases ⟨[], e⟩ pairs with
    ⟨hall, hrun⟩ | ⟨p, back, hsplit, hrejected, hrun⟩
  · rw [hall] at htaken
    refine .inl ⟨htaken, ?_⟩
    rw [write, hrun, after_recording ⟨[], e⟩ htaken]
    rfl
  · rw [recording_accepted] at hrejected
    refine .inr ⟨_, p, back, hsplit, htaken, hrejected, ?_⟩
    rw [write, hrun, recording_of_rejects hrejected, undo_recording,
      after_recording ⟨[], e⟩ htaken, Entries.eraseAll_insertAll]
    simp [Function.comp_def]

/-- A batch lands exactly if no pair of it is rejected; the calls are then its writes, in order, and
the map is the one before with the pairs put in one after the other. Otherwise there is a first pair
that is rejected; the calls are the writes of the pairs before it, the one that is rejected, and the
undoing of the keys before it, in order and nothing else, and the map is the one before without these
keys. So whatever is under a key after a rejection was there before. -/
theorem write_up_to_rejection (accepts : String → String → Bool) (e : Entries String)
    (pairs : List (String × String)) :
    let r := write accepts e pairs
    (r.landed = true ↔ ∀ p ∈ pairs, accepts p.1 p.2 = true) ∧
    (r.landed = true →
      r.entries = e.insertAll pairs ∧ r.events = pairs.map fun p => .write p.1 p.2) ∧
    (r.landed = false → ∃ front p back, pairs = front ++ p :: back ∧
      (∀ q ∈ front, accepts q.1 q.2 = true) ∧ accepts p.1 p.2 = false ∧
      r.entries = e.eraseAll (front.map Prod.fst) ∧
      r.events = (front.map fun q => .write q.1 q.2) ++
        .rejected p.1 p.2 :: front.map fun q => .undo q.1) ∧
    (r.landed = false → ∀ key value, r.entries.get? key = some value →
      e.get? key = some value) := by
  intro r
  rcases write_cases accepts e pairs with ⟨hall, hrun⟩ | ⟨front, p, back, hsplit, hfront, hp, hrun⟩
  · have hr : r = ⟨⟨pairs.map fun p => .write p.1 p.2, e.insertAll pairs⟩, true⟩ := hrun
    rw [hr]
    exact ⟨⟨fun _ => hall, fun _ => rfl⟩, fun _ => ⟨rfl, rfl⟩, fun h => (nomatch h),
      fun h => (nomatch h)⟩
  · have hr : r = ⟨⟨(front.map fun q => .write q.1 q.2) ++
        .rejected p.1 p.2 :: front.map fun q => .undo q.1,
        e.eraseAll (front.map Prod.fst)⟩, false⟩ := hrun
    rw [hr]
    refine ⟨⟨fun h => (nomatch h), fun hall => ?_⟩, fun h => (nomatch h),
      fun _ => ⟨front, p, back, hsplit, hfront, hp, rfl, rfl⟩, fun _ key value hvalue => ?_⟩
    · have haccepted := hall p (hsplit ▸ List.mem_append_right front List.mem_cons_self)
      rw [hp] at haccepted
      cases haccepted
    · rw [Entries.get?_eraseAll] at hvalue
      split at hvalue
      · cases hvalue
      · exact hvalue

def sessionPairs (token : String) (user : Profile) : List (String × String) :=
  [(userKey, user.encode), (tokenKey, token)]

example (token : String) (user : Profile) :
    Session.establishing token user = .setAll (sessionPairs token user) := rfl

namespace Backend

variable {σ : Type} {backend : Backend σ} {view : σ → Entries String}

/-- Whether keys that were all there or all missing are so again is decided by where the batch
stopped. -/
theorem Keeps.uniform_iff (h : backend.Keeps view) (s : σ) (pairs : List (String × String))
    (hbefore : (view s).Uniform (pairs.map Prod.fst)) :
    (view (backend.writeAll s pairs).2).Uniform (pairs.map Prod.fst) ↔
      (backend.writeAll s pairs).1 = true ∨
      (∀ key ∈ pairs.map Prod.fst, (view s).get? key = none) ∨
      backend.accepted s pairs = [] ∨
      ∀ key ∈ pairs.map Prod.fst, key ∈ (backend.accepted s pairs).map Prod.fst := by
  rcases h.view_writeAll s pairs with ⟨hlanded, -, hview⟩ | ⟨hrejected, -, hview⟩
  · rw [hview]
    exact ⟨fun _ => .inl hlanded, fun _ => .inl fun key hkey => Entries.isSome_get?_insertAll hkey⟩
  · have hget (key : String) : (view (backend.writeAll s pairs).2).get? key =
        if key ∈ (backend.accepted s pairs).map Prod.fst then none else (view s).get? key := by
      rw [hview, Entries.get?_eraseAll]
    constructor
    · rintro (hall | hnone)
      · -- A pair that had been written would be missing now.
        refine .inr (.inr (.inl ?_))
        cases hfront : backend.accepted s pairs with
        | nil => rfl
        | cons q front =>
          have hq : q ∈ backend.accepted s pairs := hfront ▸ List.mem_cons_self
          have hpairs : q ∈ pairs := (backend.accepted_prefix s pairs).subset hq
          have hthere := hall q.1 (List.mem_map_of_mem hpairs)
          rw [hget, if_pos (List.mem_map_of_mem hq)] at hthere
          cases hthere
      · rcases hbefore with hthere | habsent
        · -- A key that had not been written would still be there.
          refine .inr (.inr (.inr fun key hkey => ?_))
          apply Decidable.byContradiction
          intro hfree
          have hleft := hnone key hkey
          rw [hget, if_neg hfree] at hleft
          have hkept := hthere key hkey
          rw [hleft] at hkept
          cases hkept
        · exact .inr (.inl habsent)
    · rintro (hlanded | hnone | hfirst | hcovered)
      · rw [hrejected] at hlanded
        cases hlanded
      · refine .inr fun key hkey => ?_
        rw [hget, hnone key hkey, ite_self]
      · rw [hview, hfirst]
        exact hbefore
      · exact .inr fun key hkey => by rw [hget, if_pos (hcovered key hkey)]

theorem Keeps.view_rejected_session (h : backend.Keeps view) (s : σ) (token : String)
    (user : Profile) (hrejected : (backend.writeAll s (sessionPairs token user)).1 = false) :
    view (backend.writeAll s (sessionPairs token user)).2 = view s ∨
    view (backend.writeAll s (sessionPairs token user)).2 = (view s).erase userKey := by
  rcases h.view_writeAll s (sessionPairs token user) with
    ⟨hlanded, -, -⟩ | ⟨-, ⟨p, back, hsplit⟩, hview⟩
  · rw [hlanded] at hrejected
    cases hrejected
  · rw [hview]
    cases hfront : backend.accepted s (sessionPairs token user) with
    | nil => exact .inl rfl
    | cons q front =>
      rw [hfront, sessionPairs, List.cons_append, List.cons.injEq] at hsplit
      obtain ⟨rfl, hrest⟩ := hsplit
      have hlength := congrArg List.length hrest
      simp only [List.length_append, List.length_cons, List.length_nil] at hlength
      have hnil : front = [] := List.length_eq_zero_iff.1 (by omega)
      rw [hnil]
      exact .inr rfl

/-- Writing a batch to a backend that keeps a map, whichever writes it rejects. Keys that were all
there or all missing are so again exactly if the batch landed, or they were missing, or its first
write was the one rejected, or every key had been written by then. A rejected session leaves the two
keys as they were, or, where there was a session, its token without a profile; it never leaves a
profile without a token. -/
theorem Keeps.uniform_writeAll (h : backend.Keeps view) (s : σ) :
    (∀ pairs : List (String × String),
      let keys := pairs.map Prod.fst
      (view s).Uniform keys →
        ((view (backend.writeAll s pairs).2).Uniform keys ↔
          (backend.writeAll s pairs).1 = true ∨ (∀ key ∈ keys, (view s).get? key = none) ∨
          backend.accepted s pairs = [] ∨
          ∀ key ∈ keys, key ∈ (backend.accepted s pairs).map Prod.fst)) ∧
    ∀ (token : String) (user : Profile),
      let left := backend.writeAll s (sessionPairs token user)
      left.1 = false → (view s).Uniform [userKey, tokenKey] →
        view left.2 = view s ∨
        ((view s).get? tokenKey).isSome ∧
          (view left.2).get? tokenKey = (view s).get? tokenKey ∧
          (view left.2).get? userKey = none := by
  refine ⟨fun pairs => h.uniform_iff s pairs, fun token user hrejected hbefore => ?_⟩
  rcases h.view_rejected_session s token user hrejected with hsame | herased
  · exact .inl hsame
  · have hget (key : String) := congrArg (fun e => e.get? key) herased
    simp only [Entries.get?_erase] at hget
    rcases hbefore with hthere | habsent
    · refine .inr ⟨hthere tokenKey (by simp), ?_, ?_⟩
      · exact (hget tokenKey).trans (if_neg (by decide))
      · exact (hget userKey).trans (if_pos rfl)
    · refine .inl (Entries.ext_get? fun key => (hget key).trans ?_)
      split
      · next hkey => rw [← hkey, habsent userKey (by simp)]
      · rfl

end Backend

def textLength (e : Entries String) : Nat := e.items.foldl (fun n p => n + p.2.length) 0

def limited (room : Nat) : Backend (Entries String) where
  write e key value :=
    if textLength (e.insert key value) ≤ room then (true, e.insert key value) else (false, e)
  undo := Entries.erase

theorem keeps_limited (room : Nat) : (limited room).Keeps id where
  accepted e key value h := by
    simp only [limited] at h ⊢
    split at h
    · next hroom =>
      rw [if_pos hroom]
      rfl
    · cases h
  rejected e key value h := by
    simp only [limited] at h ⊢
    split at h
    · cases h
    · next hroom => rw [if_neg hroom]
  undone _ _ := rfl

theorem uniform_limited :
    let user : Profile := ⟨"1", none, .empty⟩
    let older : Entries String := .ofList [(userKey, "u-0"), (tokenKey, "t-0")]
    ((limited 16).writeAll .empty (sessionPairs "longer-token" user)).2.Uniform
      [userKey, tokenKey] ∧
    ¬ ((limited 16).writeAll older (sessionPairs "longer-token" user)).2.Uniform
      [userKey, tokenKey] := by
  intro user older
  have hnobody := ((keeps_limited 16).uniform_writeAll .empty).1 (sessionPairs "longer-token" user)
    (.inr fun _ _ => rfl)
  have hsomebody := ((keeps_limited 16).uniform_writeAll older).1
    (sessionPairs "longer-token" user) (.inl (by decide))
  refine ⟨hnobody.2 (.inr (.inl fun _ _ => rfl)), fun huniform => ?_⟩
  have hcauses := hsomebody.1 huniform
  revert hcauses
  decide

/-- A session whose token is rejected, over another session: the profile of that one is gone and its
token is not. -/
theorem token_left_alone :
    let accepts : String → String → Bool := fun key _ => key != "auth_token"
    let older : Entries String := .ofList [("auth_user", "u-0"), ("auth_token", "t-0")]
    let pairs := [("auth_user", "u-1"), ("auth_token", "t-1")]
    (recording accepts).Keeps Record.entries ∧ older.Uniform (pairs.map Prod.fst) ∧
    (write accepts older pairs).landed = false ∧
    ¬ (write accepts older pairs).entries.Uniform (pairs.map Prod.fst) := by
  intro accepts older pairs
  refine ⟨keeps_recording accepts, .inl (by decide), by decide, ?_⟩
  rintro (hall | hnone)
  · exact absurd (hall "auth_user" (by decide)) (by decide)
  · exact absurd (hnone "auth_token" (by decide)) (by decide)

end Batch

end ClientAccess
