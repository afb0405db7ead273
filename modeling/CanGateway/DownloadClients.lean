import CanGateway.SocketOwnership

/-!
# One download client after the other

On port 9012 registering a connection and running a batch exclude each other through
`download_process_mutex`, and a batch runs only for the connection that is still the global socket.
What the gateway dispatches is therefore one block of packets per connection, in the order in which
the connections registered.
-/

open StreamParser

namespace CanGateway

/-- The connections of port 9012 in the order in which they registered. -/
def registrations (log : List DownloadEvent) : List Nat :=
  log.filterMap fun
    | .registered c => some c
    | .dispatched _ _ => none

/-- What a connection contributes when the batches have run over `parsed` of its bytes. -/
def downloadBlock (c : Nat) (parsed : List UInt8) : List DownloadEvent :=
  .registered c :: (parseDownload parsed).1.map (.dispatched c)

namespace Sockets

/-- The bytes of a connection that batches have been run over. -/
def parsedBytes (s : Sockets) (c : Nat) : List UInt8 :=
  match s.clients c with
  | none => []
  | some cl => cl.parsed

/-- The handler holds `download_process_mutex`. -/
def holdsProcess : Phase → Bool
  | .joining => true
  | .joined => true
  | .entered => true
  | .checked _ => true
  | .processed _ => true
  | _ => false

/-- Only the handler of port 9012 comes here. -/
def isDownload : Phase → Bool
  | .ready => true
  | .received => true
  | phase => holdsProcess phase

/-- The handler has not registered yet. -/
def isNew : Phase → Bool
  | .accepted => true
  | .started => true
  | .ready => true
  | .joining => true
  | _ => false

/-- What holds of each connection while the others run. -/
structure ClientOk (s : Sockets) (c : Nat) (cl : Client) : Prop where
  mutex : holdsProcess cl.phase → s.processMutex = some c
  port : isDownload cl.phase → cl.port = .dataDownload
  current : cl.port = .dataDownload → cl.fd = s.sock .dataDownload → cl.phase.isOwner →
    (registrations s.log).getLast? = some c
  checked : cl.phase = .checked true → (registrations s.log).getLast? = some c
  unread : ∃ rest, cl.received = cl.parsed ++ rest ∧
    cl.stream.pending = (parseDownload cl.parsed).2 ++ rest
  fresh : isNew cl.phase → c ∉ registrations s.log ∧ cl.received = [] ∧ cl.parsed = []

/-- The invariant of port 9012. -/
structure Downloading (s : Sockets) : Prop where
  owned : s.Owned
  client : ∀ c cl, s.clients c = some cl → ClientOk s c cl
  known : ∀ c ∈ registrations s.log, s.clients c ≠ none
  nodup : (registrations s.log).Nodup
  log : s.log = (registrations s.log).flatMap fun c => downloadBlock c (s.parsedBytes c)

-- A phase of which the predicate asked about does not hold.
theorem excluded {p : Prop} (h : false = true) : p := absurd h Bool.false_ne_true

-- A handler that holds nothing and owns nothing only has to remember what it has not read.
theorem ClientOk.passive {s : Sockets} {c : Nat} {cl : Client}
    (hunread : ∃ rest, cl.received = cl.parsed ++ rest ∧
      cl.stream.pending = (parseDownload cl.parsed).2 ++ rest)
    (hdownload : isDownload cl.phase = false) (hholds : holdsProcess cl.phase = false)
    (howner : cl.phase.isOwner = false) (hnew : isNew cl.phase = false) : ClientOk s c cl := by
  refine ⟨?_, ?_, ?_, ?_, hunread, ?_⟩
  · rw [hholds]
    exact excluded
  · rw [hdownload]
    exact excluded
  · rw [howner]
    exact fun _ _ => excluded
  · intro hphase
    rw [hphase] at hholds
    exact excluded hholds.symm
  · rw [hnew]
    exact excluded

theorem registrations_append (log log' : List DownloadEvent) :
    registrations (log ++ log') = registrations log ++ registrations log' := List.filterMap_append

theorem registrations_dispatched (c : Nat) (packets : List DataPacket) :
    registrations (packets.map (.dispatched c)) = [] := by
  rw [registrations, List.filterMap_map]
  exact List.filterMap_eq_nil_iff.mpr fun _ _ => rfl

-- A batch logs its packets behind what is there.
theorem foldl_dispatched (c : Nat) (packets : List DataPacket) (log : List DownloadEvent) :
    packets.foldl (fun log packet => log ++ [DownloadEvent.dispatched c packet]) log =
      log ++ packets.map (.dispatched c) := by
  rw [List.foldl_append_eq_append, ← List.flatMap_def, List.map_eq_flatMap]

theorem parseDownload_nil : parseDownload [] = ([], []) := by
  have hshort : ([] : List UInt8).length < downloadFormat.headerLen := downloadFormat.headerLen_pos
  exact parse_wait downloadFormat.framing (downloadFormat.step_short hshort)

variable {s s' : Sockets} {c d : Nat} {cl cl' : Client}

-- What a connection knows survives the steps of the others.
theorem ClientOk.frame (h : ClientOk s d cl)
    (hmutex : s.processMutex = some d → s'.processMutex = some d)
    (hsock : cl.phase.isOwner → cl.fd = s'.sock .dataDownload → cl.fd = s.sock .dataDownload)
    (hlog : registrations s'.log = registrations s.log) : ClientOk s' d cl where
  mutex hholds := hmutex (h.mutex hholds)
  port := h.port
  current hport hfd howner := by
    rw [hlog]
    exact h.current hport (hsock howner hfd) howner
  checked hphase := by
    rw [hlog]
    exact h.checked hphase
  unread := h.unread
  fresh hnew := by
    rw [hlog]
    exact h.fresh hnew

theorem parsedBytes_update_other (hclients : s'.clients = Function.update s.clients c (some cl'))
    (h : d ≠ c) : s'.parsedBytes d = s.parsedBytes d := by
  rw [parsedBytes, clients_update_other hclients h, parsedBytes]

theorem parsedBytes_some (hc : s.clients c = some cl) : s.parsedBytes c = cl.parsed := by
  rw [parsedBytes, hc]

-- A step of one connection that dispatches nothing.
theorem Downloading.move (h : s.Downloading) (howned : s'.Owned) (hc : s.clients c = some cl)
    (hclients : s'.clients = Function.update s.clients c (some cl')) (hlog : s'.log = s.log)
    (hparsed : cl'.parsed = cl.parsed)
    (hmutex : ∀ d, d ≠ c → s.processMutex = some d → s'.processMutex = some d)
    (hsock : s'.sock .dataDownload = s.sock .dataDownload ∨ s'.sock .dataDownload = -1)
    (hok : ClientOk s' c cl') : s'.Downloading where
  owned := howned
  client d cl₁ hd := by
    by_cases hdc : d = c
    · subst hdc
      rw [clients_update_self hclients] at hd
      cases hd
      exact hok
    · rw [clients_update_other hclients hdc] at hd
      refine (h.client d cl₁ hd).frame (hmutex d hdc) ?_ (by rw [hlog])
      intro howner hfd
      obtain hsame | hcleared := hsock
      · rw [← hsame]
        exact hfd
      · have hpos := (h.owned.open_fd d cl₁ hd (isOpen_of_isOwner howner)).1
        omega
  known d hd := by
    rw [hlog] at hd
    by_cases hdc : d = c
    · subst hdc
      rw [clients_update_self hclients]
      exact Option.some_ne_none _
    · rw [clients_update_other hclients hdc]
      exact h.known d hd
  nodup := by
    rw [hlog]
    exact h.nodup
  log := by
    rw [hlog]
    have hbytes : s'.parsedBytes = s.parsedBytes := by
      funext d
      by_cases hdc : d = c
      · subst hdc
        rw [parsedBytes_some (clients_update_self hclients), parsedBytes_some hc, hparsed]
      · exact parsedBytes_update_other hclients hdc
    rw [hbytes]
    exact h.log

-- A shutdown of some connection, by its successor or by a failed `send`.
theorem Downloading.shutdown (h : s.Downloading) (fd : Int) : (s.shutdown fd).Downloading := by
  obtain ⟨_, hsock, _, hmutex, hlog⟩ := shutdown_same s fd
  refine ⟨h.owned.shutdown fd, ?_, ?_, ?_, ?_⟩
  · intro c cl' hc
    obtain ⟨cl, shut, hcl, rfl⟩ := shutdown_client_of hc
    have hok : ClientOk (s.shutdown fd) c cl := by
      refine (h.client c cl hcl).frame ?_ ?_ ?_
      · rw [hmutex]
        exact id
      · rw [hsock]
        exact fun _ => id
      · rw [hlog]
    exact ⟨hok.mutex, hok.port, hok.current, hok.checked, hok.unread, hok.fresh⟩
  · intro c hc
    rw [hlog] at hc
    rw [shutdown_clients, Ne, Option.map_eq_none_iff]
    exact h.known c hc
  · rw [hlog]
    exact h.nodup
  · rw [hlog]
    have hbytes : (s.shutdown fd).parsedBytes = s.parsedBytes := by
      funext c
      rw [parsedBytes, parsedBytes, shutdown_clients]
      cases s.clients c with
      | none => rfl
      | some cl =>
        dsimp only [Option.map_some]
        split <;> rfl
    rw [hbytes]
    exact h.log

-- A port's global socket changes; 9012's only to -1.
theorem Downloading.setSock (h : s.Downloading) (port : Port) (fd : Int)
    (howned : (s.setSock port fd).Owned) (hdown : port = .dataDownload → fd = -1) :
    (s.setSock port fd).Downloading := by
  refine ⟨howned, ?_, h.known, h.nodup, h.log⟩
  intro c cl hc
  refine (h.client c cl hc).frame id ?_ rfl
  intro howner hfd
  by_cases hp : port = .dataDownload
  · have hpos := (h.owned.open_fd c cl hc (isOpen_of_isOwner howner)).1
    subst hp
    change cl.fd = Function.update s.sock Port.dataDownload fd Port.dataDownload at hfd
    rw [Function.update_self, hdown rfl] at hfd
    omega
  · change cl.fd = Function.update s.sock port fd Port.dataDownload at hfd
    rw [Function.update_of_ne (Ne.symm hp)] at hfd
    exact hfd

-- Blocks of other connections do not change with one connection.
theorem flatMap_blocks_other (hclients : s'.clients = Function.update s.clients c (some cl'))
    (order : List Nat) (h : c ∉ order) :
    (order.flatMap fun d => downloadBlock d (s'.parsedBytes d)) =
      order.flatMap fun d => downloadBlock d (s.parsedBytes d) := by
  apply List.flatMap_congr
  intro d hd
  have hdc : d ≠ c := by
    intro heq
    rw [heq] at hd
    exact h hd
  rw [parsedBytes_update_other hclients hdc]

-- A connection registers: its block begins.
theorem Downloading.join (h : s.Downloading) (howned : s'.Owned) (hc : s.clients c = some cl)
    (hphase : cl.phase = .joining) {shut : Bool}
    (hclients : s'.clients = Function.update s.clients c
      (some { cl with phase := .joined, shut := shut }))
    (hsock : s'.sock .dataDownload = cl.fd) (hmutex : s'.processMutex = s.processMutex)
    (hlog : s'.log = s.log ++ [.registered c]) : s'.Downloading := by
  have hok := h.client c cl hc
  have hopen : cl.phase.isOpen := by rw [hphase]; rfl
  obtain ⟨hnew, hreceived, hparsed⟩ := hok.fresh (by rw [hphase]; rfl)
  have hholder := hok.mutex (by rw [hphase]; rfl)
  have hregs : registrations s'.log = registrations s.log ++ [c] := by
    rw [hlog, registrations_append]
    rfl
  have hlast : (registrations s'.log).getLast? = some c := by
    rw [hregs, List.getLast?_concat]
  refine ⟨howned, ?_, ?_, ?_, ?_⟩
  · intro d cl₁ hd
    by_cases hdc : d = c
    · subst hdc
      rw [clients_update_self hclients] at hd
      cases hd
      refine ⟨?_, ?_, fun _ _ _ => hlast, fun _ => hlast, hok.unread, excluded⟩
      · intro _
        rw [hmutex]
        exact hholder
      · intro _
        exact hok.port (by rw [hphase]; rfl)
    · rw [clients_update_other hclients hdc] at hd
      have hok₁ := h.client d cl₁ hd
      have hothers : ¬ holdsProcess cl₁.phase := by
        intro hholds
        have hboth := hok₁.mutex hholds
        rw [hholder] at hboth
        exact hdc (Option.some.inj hboth).symm
      refine ⟨fun hholds => absurd hholds hothers, hok₁.port, ?_, ?_, hok₁.unread, ?_⟩
      · intro _ hfd howner
        rw [hsock] at hfd
        exact absurd hfd (h.owned.fd_ne hc hd hopen (isOpen_of_isOwner howner) hdc)
      · intro hchecked
        rw [hchecked] at hothers
        exact absurd rfl hothers
      · intro hisNew
        obtain ⟨hnot, hbytes⟩ := hok₁.fresh hisNew
        refine ⟨?_, hbytes⟩
        rw [hregs, List.mem_append, List.mem_singleton, not_or]
        exact ⟨hnot, hdc⟩
  · intro d hd
    rw [hregs, List.mem_append, List.mem_singleton] at hd
    by_cases hdc : d = c
    · subst hdc
      rw [clients_update_self hclients]
      exact Option.some_ne_none _
    · rw [clients_update_other hclients hdc]
      exact h.known d (hd.resolve_right hdc)
  · rw [hregs]
    refine List.nodup_append.mpr ⟨h.nodup, List.pairwise_singleton _ c, ?_⟩
    intro d hd e he heq
    rw [List.mem_singleton] at he
    rw [heq, he] at hd
    exact hnew hd
  · rw [hregs, List.flatMap_append, flatMap_blocks_other hclients _ hnew, ← h.log, hlog]
    congr 1
    rw [List.flatMap_singleton, parsedBytes_some (clients_update_self hclients)]
    dsimp only
    rw [hparsed, downloadBlock, parseDownload_nil]
    rfl

-- A batch of the current connection: its packets continue the last block.
theorem Downloading.dispatch (h : s.Downloading) (howned : s'.Owned) (hc : s.clients c = some cl)
    (hphase : cl.phase = .checked true) {stream : DownloadStream}
    (hclients : s'.clients = Function.update s.clients c
      (some { cl with phase := .processed true, stream := stream, parsed := cl.received }))
    (hstream : stream.pending = (parseDownload cl.stream.pending).2)
    (hsock : s'.sock = s.sock) (hmutex : s'.processMutex = s.processMutex)
    (hlog : s'.log = s.log ++ (parseDownload cl.stream.pending).1.map (.dispatched c)) :
    s'.Downloading := by
  have hok := h.client c cl hc
  obtain ⟨rest, hreceived, hpending⟩ := hok.unread
  have happend := parse_append downloadFormat.framing cl.parsed rest
  have hregs : registrations s'.log = registrations s.log := by
    rw [hlog, registrations_append, registrations_dispatched, List.append_nil]
  obtain ⟨earlier, hearlier⟩ := List.getLast?_eq_some_iff.mp (hok.checked hphase)
  have hnotin : c ∉ earlier := by
    have hnodup := h.nodup
    rw [hearlier] at hnodup
    intro hmem
    exact (List.nodup_append.mp hnodup).2.2 c hmem c (List.mem_singleton_self c) rfl
  refine ⟨howned, ?_, ?_, ?_, ?_⟩
  · intro d cl₁ hd
    by_cases hdc : d = c
    · subst hdc
      rw [clients_update_self hclients] at hd
      cases hd
      refine ⟨?_, ?_, ?_, fun h => Phase.noConfusion h, ⟨[], ?_, ?_⟩, excluded⟩
      · intro _
        rw [hmutex]
        exact hok.mutex (by rw [hphase]; rfl)
      · intro _
        exact hok.port (by rw [hphase]; rfl)
      · intro hport hfd _
        rw [hregs]
        rw [hsock] at hfd
        exact hok.current hport hfd (by rw [hphase]; rfl)
      · exact (List.append_nil _).symm
      · rw [List.append_nil, hstream, hpending, hreceived]
        exact (congrArg Prod.snd happend).symm
    · rw [clients_update_other hclients hdc] at hd
      exact (h.client d cl₁ hd).frame (by rw [hmutex]; exact id) (by rw [hsock]; exact fun _ => id)
        hregs
  · intro d hd
    rw [hregs] at hd
    by_cases hdc : d = c
    · subst hdc
      rw [clients_update_self hclients]
      exact Option.some_ne_none _
    · rw [clients_update_other hclients hdc]
      exact h.known d hd
  · rw [hregs]
    exact h.nodup
  · have hold := h.log
    have hpackets : (parseDownload cl.received).1 =
        (parseDownload cl.parsed).1 ++ (parseDownload cl.stream.pending).1 := by
      rw [hreceived, hpending]
      exact congrArg Prod.fst happend
    rw [hearlier, List.flatMap_append, List.flatMap_singleton, parsedBytes_some hc] at hold
    rw [hregs, hearlier, List.flatMap_append, List.flatMap_singleton,
      flatMap_blocks_other hclients _ hnotin, parsedBytes_some (clients_update_self hclients), hlog,
      hold, List.append_assoc]
    congr 1
    rw [downloadBlock, downloadBlock, hpackets, List.map_append]
    rfl

-- A new connection has sent nothing and dispatched nothing.
theorem Downloading.accept (h : s.Downloading) (howned : s'.Owned) (hc : s.clients c = none)
    (hphase : cl.phase = .accepted) (hreceived : cl.received = []) (hparsed : cl.parsed = [])
    (hpending : cl.stream.pending = [])
    (hclients : s'.clients = Function.update s.clients c (some cl)) (hsock : s'.sock = s.sock)
    (hmutex : s'.processMutex = s.processMutex) (hlog : s'.log = s.log) : s'.Downloading := by
  have hnew : c ∉ registrations s.log := fun hmem => h.known c hmem hc
  refine ⟨howned, ?_, ?_, ?_, ?_⟩
  · intro d cl₁ hd
    by_cases hdc : d = c
    · subst hdc
      rw [clients_update_self hclients] at hd
      cases hd
      rw [← hlog] at hnew
      refine ⟨?_, ?_, ?_, ?_, ⟨[], ?_, ?_⟩, fun _ => ⟨hnew, hreceived, hparsed⟩⟩
      · rw [hphase]
        exact excluded
      · rw [hphase]
        exact excluded
      · rw [hphase]
        exact fun _ _ => excluded
      · rw [hphase]
        exact fun h => Phase.noConfusion h
      · rw [hreceived, hparsed, List.append_nil]
      · rw [hpending, hparsed, parseDownload_nil, List.append_nil]
    · rw [clients_update_other hclients hdc] at hd
      exact (h.client d cl₁ hd).frame (by rw [hmutex]; exact id) (by rw [hsock]; exact fun _ => id)
        (by rw [hlog])
  · intro d hd
    rw [hlog] at hd
    have hdc : d ≠ c := by
      intro heq
      rw [heq] at hd
      exact hnew hd
    rw [clients_update_other hclients hdc]
    exact h.known d hd
  · rw [hlog]
    exact h.nodup
  · rw [hlog, flatMap_blocks_other hclients _ hnew]
    exact h.log

/-! ### Every step -/

theorem Downloading.clientStep (h : s.Downloading) (hc : s.clients c = some cl)
    (step : ClientStep) : (clientStep s c cl step).Downloading := by
  have howned := h.owned.clientStep hc step
  have hok := h.client c cl hc
  generalize hs' : CanGateway.clientStep s c cl step = s' at howned ⊢
  -- `silent` for the steps that touch neither the global sockets nor the mutex
  have silent : ∀ {cl' : Client}, s'.clients = Function.update s.clients c (some cl') →
      s'.log = s.log → cl'.parsed = cl.parsed → s'.processMutex = s.processMutex →
      s'.sock = s.sock → ClientOk s' c cl' → s'.Downloading := by
    intro cl' hclients hlog hparsed hmutex hsock hok'
    exact h.move howned hc hclients hlog hparsed (fun _ _ => by rw [hmutex]; exact id)
      (Or.inl (by rw [hsock])) hok'
  cases step with
  | create ok =>
    simp only [CanGateway.clientStep] at hs'
    split at hs'
    next hphase =>
      have hfresh := hok.fresh (by rw [hphase]; rfl)
      split at hs'
      · subst hs'
        exact silent rfl rfl rfl rfl rfl ⟨excluded, excluded, fun _ _ => excluded,
          fun h => Phase.noConfusion h, hok.unread, fun _ => hfresh⟩
      · subst hs'
        exact silent rfl rfl rfl rfl rfl (.passive hok.unread rfl rfl rfl rfl)
    next =>
      subst hs'
      exact h
  | allocate ok =>
    simp only [CanGateway.clientStep] at hs'
    split at hs'
    next hphase =>
      have hfresh := hok.fresh (by rw [hphase.1]; rfl)
      split at hs'
      · subst hs'
        refine silent rfl rfl rfl rfl rfl
          ⟨excluded, fun _ => hphase.2, fun _ _ => excluded, fun h => Phase.noConfusion h,
            ⟨[], ?_, ?_⟩, fun _ => hfresh⟩
        · exact (List.append_nil _).symm.trans (by rw [hfresh.2.1, hfresh.2.2])
        · dsimp only
          rw [hfresh.2.2, parseDownload_nil]
          exact ReceiveBuffer.pending_empty 0
      · subst hs'
        exact silent rfl rfl rfl rfl rfl (.passive hok.unread rfl rfl rfl rfl)
    next =>
      subst hs'
      exact h
  | lock =>
    simp only [CanGateway.clientStep] at hs'
    have hfree : ∀ d, s.processMutex = none → s.processMutex = some d → some c = some d := by
      intro d hnone hsome
      rw [hnone] at hsome
      exact absurd hsome.symm (Option.some_ne_none d)
    split at hs'
    next hphase =>
      have hfresh := hok.fresh (by rw [hphase.2]; rfl)
      have hport := hok.port (by rw [hphase.2]; rfl)
      subst hs'
      exact h.move howned hc rfl rfl rfl (fun d _ => hfree d hphase.1) (Or.inl rfl)
        ⟨fun _ => rfl, fun _ => hport, fun _ _ => excluded, fun h => Phase.noConfusion h,
          hok.unread, fun _ => hfresh⟩
    next =>
      split at hs'
      next hphase =>
        have hport := hok.port (by rw [hphase.2]; rfl)
        subst hs'
        exact h.move howned hc rfl rfl rfl (fun d _ => hfree d hphase.1) (Or.inl rfl)
          ⟨fun _ => rfl, fun _ => hport,
            fun hp hfd _ => hok.current hp hfd (by rw [hphase.2]; rfl),
            fun h => Phase.noConfusion h, hok.unread, excluded⟩
      next =>
        subst hs'
        exact h
  | register =>
    simp only [CanGateway.clientStep, registerClient] at hs'
    -- whatever was the global socket has been shut down before
    have hbefore : (if s.sock cl.port ≠ -1 then s.shutdown (s.sock cl.port)
        else s).Downloading := by
      split
      · exact h.shutdown _
      · exact h
    have hshut : ∃ shut, (if s.sock cl.port ≠ -1 then s.shutdown (s.sock cl.port)
        else s).clients c = some { cl with shut := shut } := by
      split
      · exact shutdown_client _ hc
      · exact ⟨cl.shut, hc⟩
    have hlog : (if s.sock cl.port ≠ -1 then s.shutdown (s.sock cl.port) else s).log = s.log := by
      split
      · exact (shutdown_same s _).2.2.2.2
      · rfl
    generalize (if s.sock cl.port ≠ -1 then s.shutdown (s.sock cl.port) else s) = t
      at hs' hbefore hshut hlog
    obtain ⟨shut, hct⟩ := hshut
    split at hs'
    next hphase =>
      have hport := hok.port (by rw [hphase]; rfl)
      subst hs'
      refine hbefore.join howned hct hphase rfl ?_ rfl (by rw [hlog])
      change Function.update t.sock cl.port cl.fd .dataDownload = cl.fd
      rw [hport, Function.update_self]
    next =>
      split at hs'
      next hphase =>
        have hok' := hbefore.client c _ hct
        subst hs'
        refine hbefore.move howned hct rfl rfl rfl (fun _ _ => id) (Or.inl ?_)
          ⟨excluded, excluded, fun hp => absurd hp hphase.2, fun h => Phase.noConfusion h,
            hok'.unread, excluded⟩
        exact Function.update_of_ne (Ne.symm hphase.2) _ _
      next =>
        subst hs'
        exact h
  | unlock =>
    simp only [CanGateway.clientStep] at hs'
    have hholder : holdsProcess cl.phase → ∀ d, d ≠ c → s.processMutex = some d →
        none = some d := by
      intro hholds d hdc hsome
      rw [hok.mutex hholds] at hsome
      exact absurd (Option.some.inj hsome).symm hdc
    split at hs'
    next hphase =>
      subst hs'
      exact h.move howned hc rfl rfl rfl (hholder (by rw [hphase]; rfl)) (Or.inl rfl)
        ⟨excluded, excluded, fun hp hfd _ => hok.current hp hfd (by rw [hphase]; rfl),
          fun h => Phase.noConfusion h, hok.unread, excluded⟩
    next isCurrent hphase =>
      subst hs'
      refine h.move howned hc rfl rfl rfl (hholder (by rw [hphase]; rfl)) (Or.inl rfl)
        ⟨?_, ?_, fun hp hfd _ => hok.current hp hfd (by rw [hphase]; rfl), ?_, hok.unread, ?_⟩
      · cases isCurrent <;> exact excluded
      · cases isCurrent <;> exact excluded
      · cases isCurrent <;> exact fun h => Phase.noConfusion h
      · cases isCurrent <;> exact excluded
    next =>
      subst hs'
      exact h
  | recv chunk =>
    simp only [CanGateway.clientStep] at hs'
    split at hs'
    next hphase =>
      obtain ⟨hreceiving, hport, _, hlen⟩ := hphase
      obtain ⟨rest, hreceived, hpending⟩ := hok.unread
      have hspace : chunk.length ≤ cl.stream.space := by
        unfold receiveSize at hlen
        split_ifs at hlen <;> omega
      subst hs'
      refine silent rfl rfl rfl rfl rfl ⟨excluded, fun _ => hport,
        fun hp hfd _ => hok.current hp hfd (by rw [hreceiving]; rfl), fun h => Phase.noConfusion h,
        ⟨rest ++ chunk, ?_, ?_⟩, excluded⟩
      · dsimp only
        rw [hreceived, List.append_assoc]
      · dsimp only
        rw [ReceiveBuffer.pending_receive _ _ hspace, hpending, List.append_assoc]
    next =>
      subst hs'
      exact h
  | disconnect =>
    simp only [CanGateway.clientStep] at hs'
    split at hs'
    next hphase =>
      subst hs'
      exact silent rfl rfl rfl rfl rfl ⟨excluded, excluded,
        fun hp hfd _ => hok.current hp hfd (by rw [hphase]; rfl), fun h => Phase.noConfusion h,
        hok.unread, excluded⟩
    next =>
      subst hs'
      exact h
  | check =>
    simp only [CanGateway.clientStep] at hs'
    split at hs'
    next hphase =>
      have hport := hok.port (by rw [hphase]; rfl)
      have howner : cl.phase.isOwner := by rw [hphase]; rfl
      have hholder := hok.mutex (by rw [hphase]; rfl)
      subst hs'
      refine silent rfl rfl rfl rfl rfl ⟨fun _ => hholder, fun _ => hport,
        fun hp hfd _ => hok.current hp hfd howner, ?_, hok.unread, excluded⟩
      intro hcurrent
      have hsock := of_decide_eq_true (Phase.checked.inj hcurrent)
      rw [hport] at hsock
      exact hok.current hport hsock.symm howner
    next =>
      subst hs'
      exact h
  | process =>
    simp only [CanGateway.clientStep] at hs'
    split at hs'
    next hphase =>
      have hspec := processDownloadDataBatch_spec
        (fun log packet => log ++ [DownloadEvent.dispatched c packet]) cl.stream s.log
      rw [foldl_dispatched] at hspec
      subst hs'
      exact h.dispatch howned hc hphase rfl hspec.1 rfl rfl hspec.2
    next hphase =>
      have hport := hok.port (by rw [hphase]; rfl)
      have hholder := hok.mutex (by rw [hphase]; rfl)
      subst hs'
      exact silent rfl rfl rfl rfl rfl ⟨fun _ => hholder, fun _ => hport,
        fun hp hfd _ => hok.current hp hfd (by rw [hphase]; rfl), fun h => Phase.noConfusion h,
        hok.unread, excluded⟩
    next =>
      subst hs'
      exact h
  | withdraw =>
    simp only [CanGateway.clientStep] at hs'
    split at hs'
    next hphase =>
      split at hs'
      next heq =>
        subst hs'
        refine h.move howned hc rfl rfl rfl (fun _ _ => id) ?_
          (.passive hok.unread rfl rfl rfl rfl)
        by_cases hport : cl.port = .dataDownload
        · refine Or.inr ?_
          change Function.update s.sock cl.port (-1) .dataDownload = -1
          rw [hport, Function.update_self]
        · exact Or.inl (Function.update_of_ne (Ne.symm hport) _ _)
      next =>
        subst hs'
        exact silent rfl rfl rfl rfl rfl (.passive hok.unread rfl rfl rfl rfl)
    next =>
      subst hs'
      exact h
  | close =>
    simp only [CanGateway.clientStep] at hs'
    split at hs'
    next hphase =>
      subst hs'
      exact silent rfl rfl rfl rfl rfl (.passive hok.unread rfl rfl rfl rfl)
    next =>
      subst hs'
      exact h
  | finish =>
    simp only [CanGateway.clientStep] at hs'
    split at hs'
    next hphase =>
      subst hs'
      exact silent rfl rfl rfl rfl rfl (.passive hok.unread rfl rfl rfl rfl)
    next =>
      subst hs'
      exact h

theorem Downloading.step (h : s.Downloading) (step : SocketStep) :
    (socketStep s step).Downloading := by
  cases step with
  | accept port c fd =>
    simp only [socketStep]
    split
    next hfree =>
      have howned := h.owned.step (.accept port c fd)
      simp only [socketStep, if_pos hfree] at howned
      exact h.accept howned hfree.1 rfl rfl rfl (ReceiveBuffer.pending_empty 0) rfl rfl rfl rfl
    next => exact h
  | client c step =>
    simp only [socketStep]
    split
    next => exact h
    next cl hc => exact h.clientStep hc step
  | sendFailure port =>
    simp only [socketStep]
    split
    next =>
      have hshut := h.shutdown (s.sock port)
      exact hshut.setSock port (-1) (hshut.owned.clear port) fun _ => rfl
    next => exact h

theorem downloading_fresh : freshSockets.Downloading :=
  ⟨owned_fresh, fun _ cl h => absurd h.symm (Option.some_ne_none cl),
    fun _ h => absurd h List.not_mem_nil, List.Pairwise.nil, rfl⟩

theorem downloading_run (steps : List SocketStep) : (runSockets steps).Downloading :=
  List.foldlRecOn steps socketStep downloading_fresh fun _ h step _ => h.step step

end Sockets

/-- Replacing a 9012 client never mixes two connections.  In every interleaving, what the gateway
dispatches is one block after the other, in the order in which the connections registered; a block
starts when its connection registers and holds the packets of a prefix of what that connection
sent. -/
theorem download_clients_separate (steps : List SocketStep) :
    let s := runSockets steps
    (registrations s.log).Nodup ∧
    (∀ c ∈ registrations s.log, ∃ cl, s.clients c = some cl ∧ s.parsedBytes c <+: cl.received) ∧
    s.log = (registrations s.log).flatMap fun c =>
      .registered c :: (parseDownload (s.parsedBytes c)).1.map (.dispatched c) := by
  have h := Sockets.downloading_run steps
  refine ⟨h.nodup, ?_, h.log⟩
  intro c hc
  obtain ⟨cl, hcl⟩ := Option.ne_none_iff_exists'.mp (h.known c hc)
  obtain ⟨rest, hreceived, _⟩ := (h.client c cl hcl).unread
  refine ⟨cl, hcl, ?_⟩
  rw [Sockets.parsedBytes_some hcl, hreceived]
  exact List.prefix_append _ _

end CanGateway
