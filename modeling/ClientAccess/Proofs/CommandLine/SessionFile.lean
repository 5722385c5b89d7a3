import ClientAccess.Proofs.CommandLine.Reports
import ClientAccess.Proofs.Store.Persistence
import ClientAccess.Proofs.Text.Split

/-! What a run does to the session file. It is written when a session begins or ends and at no other
time: looking at the session, visiting a page, a call that nobody answers and arguments that make no
sense leave the whole disk as it is, whatever the file holds. Logging out leaves every other entry
of the file in place. -/
namespace ClientAccess

def Effect.change? : Effect → Option Change
  | .changed change => some change
  | _ => none

def State.changes (s : State) : List Change := s.trace.filterMap Effect.change?

namespace Application

variable {app : Application} {transport : Transport} {s : State} {call : Call} {failure : Failure}

theorem changes_navigate (app : Application) (target : String) (s : State) :
    (app.navigate target s).2.changes = s.changes := by
  rw [State.changes, trace_navigate, List.filterMap_append]
  cases (app.hopsOf target s).2 <;> simp [State.changes, Effect.change?]

def unanswered (app : Application) (s : State) (call : Call) (failure : Failure) : State :=
  (app.sending s call).notify (Answer.ofFailure failure).message

theorem reject_ofFailure (failure : Failure) (s : State) :
    app.reject (Answer.ofFailure failure) s = s.notify (Answer.ofFailure failure).message := by
  simp [reject, Answer.isExpired_ofFailure]

theorem send_unanswered (h : transport (app.prepare call s.store) = .error failure) :
    (app.send transport call s).2 = app.unanswered s call failure := by
  rw [send_snd, answerTo, h]
  exact reject_ofFailure failure _

theorem enroll_unanswered (h : transport (app.prepare call s.store) = .error failure)
    (username : String) :
    (app.enroll transport username call s).2 = app.unanswered s call failure := by
  rw [enroll_snd, answerTo, h]
  exact reject_ofFailure failure _

theorem changes_unanswered (app : Application) (s : State) (call : Call) (failure : Failure) :
    (app.unanswered s call failure).changes = s.changes := by
  simp [State.changes, unanswered, sending, State.notify, State.record, Effect.change?]

end Application

namespace CommandLine

open Application

/-- The disk is as it was, and nothing has been written to it in between. -/
structure Outcome.Spares (o : Outcome) (disk : Disk) : Prop where
  disk_eq : o.state.store.disk = disk
  changes_eq : o.state.changes = []

/-- No request of a run is answered; a run without requests is one of these. -/
def Outcome.IsUnanswered (o : Outcome) (transport : Transport) : Prop :=
  ∀ request ∈ o.state.requests, ∃ failure, transport request = .error failure

section Command

variable {app : Application} {transport : Transport} {store : Store} {command : Command}

theorem spares_unanswered (app : Application) (store : Store) (call : Call)
    (failure : ClientAccess.Failure) (result : Except Failure String) :
    Outcome.Spares ⟨result, app.unanswered (.ofStore store) call failure⟩ store.disk :=
  ⟨rfl, changes_unanswered app (.ofStore store) call failure⟩

theorem spares_enroll {call : Call} {username : String}
    (h : (ofSignIn (app.enroll transport username call (.ofStore store))).IsUnanswered transport) :
    (ofSignIn (app.enroll transport username call (.ofStore store))).Spares store.disk := by
  obtain ⟨failure, hfailure⟩ := h (app.prepare call store) (by
    simp [ofSignIn, requests_enroll, State.ofStore])
  rw [ofSignIn, enroll_unanswered hfailure]
  exact spares_unanswered app store call failure _

theorem requests_runCommand_local (h : command = .whoami ∨ ∃ path, command = .navigate path) :
    (runCommand app transport (.ofStore store) command).state.requests = [] := by
  rcases h with rfl | ⟨path, rfl⟩
  · rfl
  · exact requests_navigate app _ path

/-- The only command that writes without an answer is logging out. -/
theorem spares_runCommand (hcommand : command ≠ .logout)
    (h : (runCommand app transport (.ofStore store) command).IsUnanswered transport) :
    (runCommand app transport (.ofStore store) command).Spares store.disk := by
  cases command with
  | login credentials => exact spares_enroll h
  | register registration => exact spares_enroll h
  | logout => exact absurd rfl hcommand
  | whoami => exact ⟨rfl, rfl⟩
  | call method path query data =>
    simp only [runCommand] at h ⊢
    cases hbuild : buildCall method path query data with
    | error failure => exact ⟨rfl, rfl⟩
    | ok call =>
      -- The one request of the run is among those that nobody answers.
      simp only [hbuild] at h
      obtain ⟨failure, hfailure⟩ := h (app.prepare call store) (by
        simp [requests_send, State.ofStore])
      simp only [send_unanswered (s := .ofStore store) hfailure]
      exact spares_unanswered app store call failure _
  | navigate path =>
    refine ⟨?_, changes_navigate app path _⟩
    exact congrArg Store.disk (store_navigate app path (.ofStore store))

theorem not_isLocal_ofSignIn {r : Except SignInFault Profile × State} {failure : Failure}
    (hresult : (ofSignIn r).result = .error failure) : ¬ failure.IsLocal := by
  obtain ⟨result, s⟩ := r
  cases result with
  | ok user => cases hresult
  | error fault =>
    cases hresult
    exact id

theorem state_of_isLocal {s : State} {failure : Failure}
    (hresult : (runCommand app transport s command).result = .error failure)
    (hlocal : failure.IsLocal) : (runCommand app transport s command).state = s := by
  cases command with
  | logout | whoami => cases hresult
  | login credentials | register registration => exact absurd hlocal (not_isLocal_ofSignIn hresult)
  | call method path query data =>
    simp only [runCommand] at hresult ⊢
    cases hbuild : buildCall method path query data with
    | error failure => rfl
    | ok call =>
      simp only [hbuild] at hresult
      cases hsend : (app.send transport call s).1 <;> rw [hsend] at hresult <;> cases hresult
      cases hlocal
  | navigate path =>
    simp only [runCommand] at hresult
    cases hvisit : (app.navigate path s).1 <;> rw [hvisit] at hresult <;> cases hresult
    cases hlocal

/-- Arguments of a call that make no sense: a pair without an equals sign, or a payload that is no
JSON text. -/
def IsSenseless (query : List String) (data : Option String) : Prop :=
  (∃ text ∈ query, '=' ∉ text.toList) ∨ ∃ text ∈ data, ∃ fault, Json.read text = .error fault

theorem exists_error_addPairs {query : List String} (h : ∃ text ∈ query, '=' ∉ text.toList)
    (c : Call) : ∃ failure, addPairs c query = .error failure := by
  induction query generalizing c with
  | nil => simp at h
  | cons text rest ih =>
    unfold addPairs
    split
    · next key value hcut =>
      refine ih ?_ _
      obtain ⟨other, hmem, hother⟩ := h
      rcases List.mem_cons.1 hmem with rfl | hmem
      · rw [Text.cutFirst_eq_none_iff.2 hother] at hcut
        cases hcut
      · exact ⟨other, hmem, hother⟩
    · exact ⟨_, rfl⟩

theorem exists_error_buildCall {query : List String} {data : Option String}
    (h : IsSenseless query data) (method path : String) :
    ∃ failure, buildCall method path query data = .error failure := by
  obtain ⟨c, hcall⟩ := buildCall_eq method path query data
  rw [hcall]
  cases hpairs : addPairs c query with
  | error failure => exact ⟨failure, rfl⟩
  | ok called =>
    rcases h with hpair | ⟨text, rfl, fault, hfault⟩
    · obtain ⟨failure, hfailure⟩ := exists_error_addPairs hpair c
      rw [hfailure] at hpairs
      cases hpairs
    · exact ⟨.payload fault, by simp only [Except.bind, hfault]; rfl⟩

end Command

section Run

variable {env : Environment} {disk : Disk} {transport : Transport} {i : Invocation} {s : Settings}

theorem run_cases (env : Environment) (disk : Disk) (transport : Transport) (i : Invocation) :
    (∃ fault, settingsOf env i = .error fault ∧ run env disk transport i =
      ⟨.error (.settings fault), .ofStore ⟨.memory, .empty, disk⟩⟩) ∨
    ∃ s, settingsOf env i = .ok s ∧ run env disk transport i =
      runCommand (application s) transport (.ofStore (Store.openFile disk s.sessionFile))
        i.command := by
  unfold run
  cases settingsOf env i with
  | error fault => exact .inl ⟨fault, rfl, rfl⟩
  | ok s => exact .inr ⟨s, rfl, rfl⟩

theorem spares_run (hcommand : i.command ≠ .logout)
    (h : (run env disk transport i).IsUnanswered transport) :
    (run env disk transport i).Spares disk := by
  rcases run_cases env disk transport i with ⟨fault, -, hrun⟩ | ⟨s, -, hrun⟩
  · rw [hrun]
    exact ⟨rfl, rfl⟩
  · rw [hrun] at h ⊢
    exact spares_runCommand hcommand h

theorem requests_run_local (h : i.command = .whoami ∨ ∃ path, i.command = .navigate path) :
    (run env disk transport i).state.requests = [] := by
  rcases run_cases env disk transport i with ⟨fault, -, hrun⟩ | ⟨s, -, hrun⟩
  · rw [hrun]
    rfl
  · rw [hrun]
    exact requests_runCommand_local h

theorem spares_of_isLocal {failure : Failure}
    (hresult : (run env disk transport i).result = .error failure) (hlocal : failure.IsLocal) :
    (run env disk transport i).state.requests = [] ∧ (run env disk transport i).Spares disk := by
  rcases run_cases env disk transport i with ⟨fault, -, hrun⟩ | ⟨s, -, hrun⟩
  · rw [hrun]
    exact ⟨rfl, rfl, rfl⟩
  · rw [hrun] at hresult ⊢
    have hstate := state_of_isLocal hresult hlocal
    refine ⟨?_, ?_, ?_⟩ <;> rw [hstate] <;> rfl

theorem senseless_run {method path : String} {query : List String} {data : Option String}
    (hcommand : i.command = .call method path query data) (h : IsSenseless query data) :
    (run env disk transport i).state.requests = [] ∧
      ∃ failure, (run env disk transport i).result = .error failure ∧ failure.IsLocal := by
  suffices hfails : ∃ failure, (run env disk transport i).result = .error failure ∧
      failure.IsLocal by
    obtain ⟨failure, hresult, hlocal⟩ := hfails
    exact ⟨(spares_of_isLocal hresult hlocal).1, failure, hresult, hlocal⟩
  rcases run_cases env disk transport i with ⟨fault, -, hrun⟩ | ⟨s, -, hrun⟩
  · exact ⟨.settings fault, by rw [hrun], trivial⟩
  · obtain ⟨failure, hfailure⟩ := exists_error_buildCall h method path
    refine ⟨failure, ?_, isLocal_of_buildCall hfailure⟩
    rw [hrun, hcommand]
    simp only [runCommand, hfailure]

theorem store_run_logout (hcommand : i.command = .logout) (hs : settingsOf env i = .ok s) :
    (run env disk transport i).state.store =
      Session.clear (Store.openFile disk s.sessionFile) := by
  simp only [run, hs, hcommand, runCommand, logout, store_push]
  rfl

theorem printed_whoami_of_none (hcommand : i.command = .whoami) (hs : settingsOf env i = .ok s)
    (hnone : Session.snapshot (Store.openFile disk s.sessionFile) = ⟨none, none⟩) :
    (run env disk transport i).printed =
      "\x7b\n  \"authenticated\": false,\n  \"user\": null\n\x7d\n" := by
  simp only [run, hs, hcommand, runCommand, Outcome.printed, State.snapshot, State.ofStore, hnone]
  decide

theorem cleared_file {path : String}
    (hsaved : (Store.openFile disk path).saves Session.ending = true) :
    let after := (Session.clear (Store.openFile disk path)).disk
    after.read? path = some (Store.load after path).toFileText.toUTF8 ∧
    (∀ key, (Store.load after path).get? key =
      if key = Session.tokenKey ∨ key = Session.userKey then none
      else (Store.load disk path).get? key) ∧
    Session.snapshot (Store.openFile after path) = ⟨none, none⟩ := by
  intro after
  have hread : after.read? path =
      some (Session.clear (Store.openFile disk path)).entries.toFileText.toUTF8 :=
    Store.read?_apply rfl hsaved
  have hload : Store.load after path = (Session.clear (Store.openFile disk path)).entries :=
    Store.load_eq hread
  have hkeys (key : String) : (Store.load after path).get? key =
      if key = Session.tokenKey ∨ key = Session.userKey then none
      else (Store.load disk path).get? key := by
    rw [hload]
    exact Session.get?_ending (Store.openFile disk path) key
  refine ⟨hload ▸ hread, hkeys, ?_⟩
  have htoken := hkeys Session.tokenKey
  have huser := hkeys Session.userKey
  simp only [true_or, or_true, if_true] at htoken huser
  simp [Session.snapshot, Session.token?, Session.user?, Store.get?, Store.openFile, htoken, huser]

end Run

/-- What a run does to the disk, whatever the session file holds and if there is none. Looking at
the session and visiting a page send nothing and change nothing, and so do settings and arguments
that make no sense. Nothing is changed either where every request of a run stays without an answer,
except by logging out. If that can be written, the file afterwards holds the entries it was read to
hold before without those of the session, and who looks at the session next finds none. -/
theorem run_spares_session_file (env : Environment) (disk : Disk) :
    (∀ transport i, (i.command = .whoami ∨ ∃ path, i.command = .navigate path) →
      (run env disk transport i).state.requests = [] ∧
      (run env disk transport i).Spares disk) ∧
    (∀ transport i, i.command ≠ .logout → (run env disk transport i).IsUnanswered transport →
      (run env disk transport i).Spares disk) ∧
    (∀ transport i failure, (run env disk transport i).result = .error failure →
      failure.IsLocal →
        (run env disk transport i).state.requests = [] ∧
        (run env disk transport i).Spares disk) ∧
    (∀ transport i method path query data, i.command = .call method path query data →
      IsSenseless query data →
        (run env disk transport i).state.requests = [] ∧
        ∃ failure, (run env disk transport i).result = .error failure ∧ failure.IsLocal) ∧
    ∀ transport i s, i.command = .logout → settingsOf env i = .ok s →
      (Store.openFile disk s.sessionFile).saves Session.ending = true →
        let after := (run env disk transport i).state.store.disk
        after.read? s.sessionFile =
          some (Store.load after s.sessionFile).toFileText.toUTF8 ∧
        (∀ key, (Store.load after s.sessionFile).get? key =
          if key = Session.tokenKey ∨ key = Session.userKey then none
          else (Store.load disk s.sessionFile).get? key) ∧
        ∀ env' transport' j s', j.command = .whoami → settingsOf env' j = .ok s' →
          s'.sessionFile = s.sessionFile →
            (run env' after transport' j).printed =
              "\x7b\n  \"authenticated\": false,\n  \"user\": null\n\x7d\n" := by
  refine ⟨?_, fun transport i => spares_run, fun transport i failure => spares_of_isLocal,
    fun transport i method path query data => senseless_run, ?_⟩
  · intro transport i h
    have hrequests : (run env disk transport i).state.requests = [] := requests_run_local h
    refine ⟨hrequests, spares_run ?_ ?_⟩
    · rcases h with h | ⟨path, h⟩ <;> simp [h]
    · simp [Outcome.IsUnanswered, hrequests]
  · intro transport i s hcommand hs hsaved after
    obtain ⟨hread, hkeys, hnone⟩ := cleared_file hsaved
    have hafter : after = (Session.clear (Store.openFile disk s.sessionFile)).disk :=
      congrArg Store.disk (store_run_logout hcommand hs)
    rw [← hafter] at hread hkeys hnone
    refine ⟨hread, hkeys, ?_⟩
    intro env' transport' j s' hwhoami hs' hsame
    exact printed_whoami_of_none hwhoami hs' (hsame ▸ hnone)

def sharedFile : Disk where
  nodes := [(["home", ".authgate-session.json"],
    .file "\x7b\"auth_token\":\"t\",\"theme\":\"dark\"\x7d".toUTF8)]
  working := ["home"]

def sharedPath : String := "/home/.authgate-session.json"

def sharedFileAfter : Disk :=
  (run bareEnvironment sharedFile unreachable ⟨none, some sharedPath, .logout⟩).state.store.disk

theorem shared_file_spared :
    (run bareEnvironment sharedFile unreachable ⟨none, none, .login ⟨"ann", "pw"⟩⟩).Spares
      sharedFile ∧
    (run bareEnvironment sharedFile unreachable
      ⟨none, none, .call "post" "/api/orders" ["page=2"] (some "[1,")⟩).state.requests = [] ∧
    (run bareEnvironment sharedFile unreachable
      ⟨none, none, .call "post" "/api/orders" ["page=2"] (some "[1,")⟩).Spares sharedFile ∧
    (run bareEnvironment sharedFile unreachable ⟨none, none, .navigate "/users"⟩).Spares
      sharedFile ∧
    (Store.load sharedFileAfter sharedPath).get? "theme" = some "dark" ∧
    (run bareEnvironment sharedFileAfter unreachable ⟨none, some sharedPath, .whoami⟩).printed =
      "\x7b\n  \"authenticated\": false,\n  \"user\": null\n\x7d\n" := by
  obtain ⟨hlook, hunanswered, hlocal, hsenseless, hlogout⟩ :=
    run_spares_session_file bareEnvironment sharedFile
  have hpayload : IsSenseless ["page=2"] (some "[1,") := .inr ⟨"[1,", rfl, _, rfl⟩
  obtain ⟨hunsent, failure, hresult, hfailure⟩ := hsenseless unreachable
    ⟨none, none, .call "post" "/api/orders" ["page=2"] (some "[1,")⟩ _ _ _ _ rfl hpayload
  have hsaved : (Store.openFile sharedFile sharedPath).saves Session.ending = true :=
    by decide +kernel
  let settings : Settings := { Settings.standard with sessionFile := sharedPath }
  obtain ⟨-, hkeys, hwhoami⟩ :=
    hlogout unreachable ⟨none, some sharedPath, .logout⟩ settings rfl rfl hsaved
  have htheme := hkeys "theme"
  have hdark : (Store.load sharedFile sharedPath).get? "theme" = some "dark" := rfl
  rw [if_neg (by decide)] at htheme
  refine ⟨hunanswered unreachable _ (by simp) fun _ _ => ⟨_, rfl⟩,
    hunsent, (hlocal unreachable _ failure hresult hfailure).2,
    (hlook unreachable _ (.inr ⟨"/users", rfl⟩)).2, htheme.trans hdark, ?_⟩
  exact hwhoami bareEnvironment unreachable ⟨none, some sharedPath, .whoami⟩ settings rfl rfl rfl

end CommandLine

end ClientAccess
