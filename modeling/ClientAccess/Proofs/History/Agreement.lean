import ClientAccess.Proofs.History.Operation
import ClientAccess.Proofs.Store.Interruption

/-! Agreement. An application looks at its store through keys only, so everything it does it would
do on a store that keeps the same map in memory. -/
namespace ClientAccess

/-- The state with its map kept in memory. -/
def State.plain (s : State) : State := { s with store := .inMemory s.store.entries }

theorem State.plain_change (s : State) (change : Change) :
    s.plain.change change = (s.change change).plain := by
  have hentries := Store.entries_apply s.store change
  simp only [State.plain, State.change, State.record, hentries]
  rfl

namespace Application

variable (app : Application) (s : State)

theorem navigate_plain (target : String) :
    app.navigate target s.plain = (app.navigate target s).map id State.plain := by
  have hhops : app.hopsOf target s.plain = app.hopsOf target s := rfl
  rw [navigate_eq, navigate_eq, hhops]
  rfl

theorem push_plain (path : String) : app.push path s.plain = (app.push path s).plain :=
  congrArg Prod.snd (navigate_plain app (s.record (.pushed path)) path)

theorem evaluate_plain (visit : Match) :
    app.evaluate visit s.plain = (app.evaluate visit s).map id State.plain := by
  have hcheck : app.check visit s.plain = app.check visit s := rfl
  simp only [evaluate, hcheck]
  cases app.check visit s == .toDefault <;> rfl

theorem reject_plain (refusal : Refusal) :
    app.reject refusal s.plain = (app.reject refusal s).plain := by
  unfold reject
  cases refusal.isExpired with
  | true =>
    simp only [if_true]
    rw [State.plain_change]
    exact push_plain app ((s.change Session.ending).notify refusal.message) app.loginPath
  | false => rfl

theorem send_plain (transport : Transport) (call : Call) :
    app.send transport call s.plain = (app.send transport call s).map id State.plain := by
  have hanswer : app.answerTo transport s.plain call = app.answerTo transport s call := rfl
  have hsending : app.sending s.plain call = (app.sending s call).plain := rfl
  refine Prod.ext ?_ ?_
  · simp only [Prod.map_fst, id_eq, send_fst, hanswer]
  · simp only [Prod.map_snd, send_snd, hanswer, hsending]
    cases (app.answerTo transport s call).outcome with
    | ok value => rfl
    | error refusal => exact reject_plain app _ refusal

theorem enroll_plain (transport : Transport) (username : String) (call : Call) :
    app.enroll transport username call s.plain =
      (app.enroll transport username call s).map id State.plain := by
  have hanswer : app.answerTo transport s.plain call = app.answerTo transport s call := rfl
  have hsending : app.sending s.plain call = (app.sending s call).plain := rfl
  refine Prod.ext ?_ ?_
  · simp only [Prod.map_fst, id_eq, enroll_fst, hanswer]
  · simp only [Prod.map_snd, enroll_snd, hanswer, hsending]
    cases (app.answerTo transport s call).enrolled username with
    | ok grant => exact State.plain_change _ _
    | error fault =>
      cases fault with
      | refused refusal => exact reject_plain app _ refusal
      | malformed fault => rfl

theorem respond_plain (server : List OutgoingRequest → Transport) (op : Operation) :
    app.respond server s.plain op = (app.respond server s op).map id State.plain := by
  have hrequests : s.plain.requests = s.requests := rfl
  cases op with
  | change change => exact congrArg (Prod.mk Result.nothing) (State.plain_change s change)
  | send call => simp only [respond, hrequests, send_plain, Prod.map_map]; rfl
  | login credentials => simp only [respond, login, hrequests, enroll_plain, Prod.map_map]; rfl
  | register registration =>
    simp only [respond, register, hrequests, enroll_plain, Prod.map_map]; rfl
  | logout =>
    simp only [respond, logout, State.plain_change, push_plain]
    rfl
  | navigate target => simp only [respond, navigate_plain, Prod.map_map]; rfl
  | push path => exact congrArg (Prod.mk Result.nothing) (push_plain app s path)
  | evaluate visit => simp only [respond, evaluate_plain, Prod.map_map]; rfl
  | get | snapshot | prepare | check | report => rfl

theorem respondAll_agree (server : List OutgoingRequest → Transport) {s t : State}
    (h : s.plain = t.plain) {xs ys : List (Disk × Operation)}
    (hops : xs.map Prod.snd = ys.map Prod.snd) :
    (app.respondAll server s xs).1 = (app.respondAll server t ys).1 ∧
      (app.respondAll server s xs).2.plain = (app.respondAll server t ys).2.plain := by
  induction xs generalizing s t ys with
  | nil =>
    have hnil : ys = [] := by simpa using hops.symm
    subst hnil
    exact ⟨rfl, h⟩
  | cons x xs ih =>
    obtain ⟨disk, op⟩ := x
    cases ys with
    | nil => cases hops
    | cons y ys =>
      obtain ⟨disk', op'⟩ := y
      simp only [List.map_cons, List.cons.injEq] at hops
      obtain ⟨rfl, hrest⟩ := hops
      -- Neither disk is seen once the map is kept in memory, so both operations start alike.
      have hsame : (s.onDisk disk).plain = (t.onDisk disk').plain := h
      have hmap : (app.respond server (s.onDisk disk) op).map id State.plain =
          (app.respond server (t.onDisk disk') op).map id State.plain := by
        rw [← respond_plain, ← respond_plain, hsame]
      obtain ⟨hresult, hnext⟩ := Prod.ext_iff.1 hmap
      obtain ⟨hresults, hlast⟩ := ih hnext hrest
      exact ⟨List.cons_eq_cons.2 ⟨hresult, hresults⟩, hlast⟩

/-- A store answers as a map does that starts with what the store holds, and a store opened on a
file as the map that was read. Its kind does not count: a batch may be one change or one for each
key, and there may or may not be a file, which others may write or delete at any time and which need
not be writable. So an application cannot tell apart two stores that hold the same: with the same
answers to its requests it gives the same results on both, has the same effects in the same order,
which are requests, notices, pages pushed and changes, and ends at the same place with the same map.
-/
theorem stores_agree {s t : Store} (hsame : ∀ key, s.get? key = t.get? key) :
    (∀ requests : List (Disk × Store.Request),
      s.answers requests = Store.Request.answers t.get? (requests.map Prod.snd)) ∧
    (∀ (disk : Disk) (path : String) (requests : List (Disk × Store.Request)),
      (Store.openFile disk path).answers requests =
        Store.Request.answers (Store.load disk path).get? (requests.map Prod.snd)) ∧
    ∀ (app : Application) (server : List OutgoingRequest → Transport)
      (xs ys : List (Disk × Operation)), xs.map Prod.snd = ys.map Prod.snd →
        let a := app.respondAll server (.ofStore s) xs
        let b := app.respondAll server (.ofStore t) ys
        a.1 = b.1 ∧ a.2.trace = b.2.trace ∧ a.2.current = b.2.current ∧
          ∀ key, a.2.store.get? key = b.2.store.get? key := by
  refine ⟨?_, fun disk path => Store.answers_eq (Store.openFile disk path), ?_⟩
  · intro requests
    rw [Store.answers_eq, funext hsame]
  · intro app server xs ys hops a b
    have hentries : s.entries = t.entries := Entries.ext_get? hsame
    have hplain : (State.ofStore s).plain = (State.ofStore t).plain := by
      simp only [State.plain, State.ofStore, hentries]
    obtain ⟨hresults, hlast⟩ := respondAll_agree app server hplain hops
    have htrace := congrArg State.trace hlast
    have hcurrent := congrArg State.current hlast
    have hstore : a.2.store.entries = b.2.store.entries := congrArg (·.store.entries) hlast
    refine ⟨hresults, htrace, hcurrent, ?_⟩
    intro key
    rw [Store.get?, Store.get?, hstore]

theorem unwritable_file_agrees :
    let file := Store.openFile Store.obstructed "s.json"
    let single : Store := ⟨.single, Store.tokenMap "t", .empty⟩
    let batch : Change := .setAll [("k", "1"), ("k", "2")]
    let ops : List Operation :=
      [.change batch, .login ⟨"alice", "pw"⟩, .get Session.tokenKey, .navigate "/users"]
    file.answers [(Store.obstructed, .change batch), (.empty, .get "k")] = [some "2"] ∧
    (standard.respondAll (fun _ _ => .ok ⟨401, none⟩) (.ofStore file)
      (ops.map (Store.obstructed, ·))).1 =
    (standard.respondAll (fun _ _ => .ok ⟨401, none⟩) (.ofStore single)
      (ops.map (.empty, ·))).1 := by
  intro file single batch ops
  have hread : Store.obstructed.read? "s.json" = some (Store.tokenMap "t").toFileText.toUTF8 := rfl
  have hsame : ∀ key, file.get? key = single.get? key := by
    intro key
    have hentries : file.entries = single.entries := Store.load_eq hread
    rw [Store.get?, Store.get?, hentries]
  obtain ⟨hanswers, -, hruns⟩ := stores_agree hsame
  have hops : (ops.map (Store.obstructed, ·)).map Prod.snd =
      (ops.map ((.empty : Disk), ·)).map Prod.snd := rfl
  obtain ⟨hresults, -⟩ := hruns standard (fun _ _ => .ok ⟨401, none⟩) _ _ hops
  refine ⟨?_, hresults⟩
  rw [hanswers]
  rfl

end Application

end ClientAccess
