import ClientAccess.Proofs.History.Notice

/-! The two keys of the session. They are written together and removed together, and no token is
granted that is empty. So whatever the application does itself, and whatever it is answered, there
are both of them or there is neither. -/
namespace ClientAccess

namespace Session

/-- The two keys belong together. A token that is there is not empty. -/
inductive Paired (store : Store) : Prop where
  | neither (token : store.get? tokenKey = none) (user : store.get? userKey = none)
  | both {token text : String} (stored : store.get? tokenKey = some token) (full : token ≠ "")
    (user : store.get? userKey = some text)

variable {store : Store}

theorem Paired.token?_eq (h : Paired store) : token? store = store.get? tokenKey := by
  cases h with
  | neither none user => rw [token?, none, Option.filter_none]
  | both stored full user => simp [token?, stored, full, Option.filter]

theorem Paired.user?_eq_none (h : Paired store) (ht : token? store = none) :
    user? store = none := by
  rw [h.token?_eq] at ht
  cases h with
  | neither none user => rw [user?, user, Option.bind_none]
  | both stored full user => cases stored.symm.trans ht

/-- An event leaves the keys together unless it opens a session with an empty token. -/
theorem Paired.after (h : Paired store) {event? : Option Event}
    (hfull : ∀ token user, event? = some (.opened token user) → token ≠ "") :
    Paired (Session.after store event?) := by
  cases event? with
  | none => exact h
  | some event =>
    cases event with
    | opened token user =>
      exact .both (get?_tokenKey_establishing store token user) (hfull token user rfl)
        (get?_userKey_establishing store token user)
    | closed =>
      refine .neither ?_ ?_
      · exact (get?_ending store tokenKey).trans (if_pos (.inl rfl))
      · exact (get?_ending store userKey).trans (if_pos (.inr rfl))

namespace Event

variable {token : String} {user : Profile}

theorem ofRefusal?_ne_opened (refusal : Refusal) :
    ofRefusal? refusal ≠ some (opened token user) := by
  unfold ofRefusal?
  cases refusal.isExpired <;> simp

theorem token_ne_of_ofAnswer? (answer : Answer) (username? : Option String)
    (h : ofAnswer? answer username? = some (opened token user)) : token ≠ "" := by
  cases username? with
  | none =>
    simp only [ofAnswer?] at h
    cases hout : answer.outcome with
    | ok value => simp [hout, ofCall?] at h
    | error refusal =>
      rw [hout] at h
      exact absurd h (ofRefusal?_ne_opened refusal)
  | some username =>
    simp only [ofAnswer?] at h
    cases hgrant : answer.enrolled username with
    | ok grant =>
      obtain ⟨hgranted, hne⟩ := Answer.grantedToken?_of_enrolled hgrant
      have hsame : grant.token = token ∧ grant.user = user := by
        simpa [hgrant, Except.map, ofSignIn?, hgranted] using h
      exact hsame.1 ▸ hne
    | error fault =>
      rw [hgrant] at h
      cases fault with
      | refused refusal => exact absurd h (ofRefusal?_ne_opened refusal)
      | malformed fault => cases h

end Event

end Session

namespace Application

open Session (Event Paired)

variable {app : Application} {s : State}

theorem token_ne_of_event? {a : Action} (hown : a.isOwn = true) {token : String} {user : Profile}
    (h : app.event? s a = some (.opened token user)) : token ≠ "" := by
  cases a with
  | establish token user => cases hown
  | clear => cases hown
  | login credentials answer =>
    rw [event?, login, enroll_fst] at h
    exact Event.token_ne_of_ofAnswer? answer (some credentials.username) h
  | register registration answer =>
    rw [event?, register, enroll_fst] at h
    exact Event.token_ne_of_ofAnswer? answer (some registration.username) h
  | logout => cases h
  | send call answer =>
    rw [event?, send_fst] at h
    exact Event.token_ne_of_ofAnswer? answer none h
  | navigate target => cases h
  | push path => cases h
  | evaluate visit => cases h

theorem paired_perform (h : Paired s.store) {a : Action} (hown : a.isOwn = true) :
    Paired (app.perform s a).store := by
  rw [store_perform]
  exact h.after fun token user hevent => token_ne_of_event? hown hevent

/-- From a store on that has both keys, with a token that is not empty, or neither, every history of
what the application does itself leads to such a store. So where there is no token there is no user
either. -/
theorem paired_history (app : Application) (s : State) (h : Paired s.store)
    (actions : List Action) (hown : ∀ a ∈ actions, a.isOwn = true) :
    Paired (app.replay s actions).store ∧
    ((app.replay s actions).snapshot.token = none →
      (app.replay s actions).snapshot.user = none) := by
  have hpaired : Paired (app.replay s actions).store := by
    induction actions generalizing s with
    | nil => exact h
    | cons a as ih =>
      obtain ⟨ha, has⟩ := List.forall_mem_cons.1 hown
      exact ih (app.perform s a) (paired_perform h ha) has
  exact ⟨hpaired, hpaired.user?_eq_none⟩

def troubles : List Action :=
  [.login ⟨"ann", "pw"⟩ (.ok ⟨200, some (.obj [("data", .obj [("token", .str "")])])⟩),
    .navigate "/orders", .send (.get "/api/orders") (.ok ⟨401, none⟩),
    .register ⟨"ann", "pw", none, []⟩ (.ok ⟨200, some (.obj [("data", .str "t-2")])⟩)]

theorem paired_through_troubles :
    Paired signedIn.store ∧
    (standard.replay signedIn (troubles.take 2)).snapshot.token = some "t-1" ∧
    Paired (standard.replay signedIn troubles).store ∧
    (standard.replay signedIn troubles).snapshot.user = none := by
  have hstart : Paired signedIn.store := .both rfl (by decide) rfl
  obtain ⟨hpaired, hnobody⟩ := paired_history standard signedIn hstart troubles (by decide)
  exact ⟨hstart, rfl, hpaired, hnobody rfl⟩

end Application

end ClientAccess
