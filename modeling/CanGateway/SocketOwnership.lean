import CanGateway.DownloadStream
import Mathlib.Logic.Function.Basic

/-!
# The sockets of ports 9010, 9011 and 9012

Every accepted connection gets a handler thread; the newest one of a port is the port's global
socket, to which the senders write.  A file-descriptor number is free again as soon as it is
closed, so a handler that compares the global socket with its own number relies on nobody else
closing it.  One step is one critical section or one system call of one thread.
-/

namespace CanGateway

/-! ## The code -/

/-- 9010, 9011 and 9012. -/
inductive Port where
  | dataUpload
  | event
  | dataDownload
  deriving DecidableEq

/-- Where a connection's handler is; `accepted` and `refused` are the listener's. -/
inductive Phase where
  | accepted
  | refused
  | started
  | ready
  | joining
  | joined
  | receiving
  | received
  | entered
  | checked (isCurrent : Bool)
  | processed (isCurrent : Bool)
  | leaving
  | withdrawn
  | closed
  | returned
  deriving DecidableEq

/-- A connection.  `received` and `parsed` are its history: all bytes `recv` has returned, and those
of them a batch has been run over. -/
structure Client where
  port : Port
  fd : Int
  phase : Phase
  stream : DownloadStream
  shut : Bool
  received : List UInt8
  parsed : List UInt8

/-- A call of `close`: whose handler made it (`none` is the listener), and the connection the number
stood for. -/
structure CloseCall where
  caller : Option Nat
  target : Option Nat
  deriving DecidableEq

/-- What port 9012 does, in order. -/
inductive DownloadEvent where
  | registered (c : Nat)
  | dispatched (c : Nat) (packet : DataPacket)
  deriving DecidableEq

/-- `files` is the kernel's table of open numbers; `sock` holds `data_upload_socket`, `event_socket`
and `data_download_socket`; `processMutex` is the holder of `download_process_mutex`. -/
structure Sockets where
  clients : Nat → Option Client
  files : Int → Option Nat
  sock : Port → Int
  processMutex : Option Nat
  closes : List CloseCall
  log : List DownloadEvent

namespace Sockets

def setClient (s : Sockets) (c : Nat) (cl : Client) : Sockets :=
  { s with clients := Function.update s.clients c (some cl) }

/-- `shutdown(fd, SHUT_RDWR)`: the connection ends, its number stays taken. -/
def shutdown (s : Sockets) (fd : Int) : Sockets :=
  match s.files fd with
  | none => s
  | some c =>
      match s.clients c with
      | none => s
      | some cl => s.setClient c { cl with shut := true }

/-- `close(fd)`: the number is free again. -/
def close (s : Sockets) (caller : Option Nat) (fd : Int) : Sockets :=
  { s with
    files := Function.update s.files fd none
    closes := s.closes ++ [⟨caller, s.files fd⟩] }

def setSock (s : Sockets) (port : Port) (fd : Int) : Sockets :=
  { s with sock := Function.update s.sock port fd }

end Sockets

/-- The steps of the thread that has the connection. -/
inductive ClientStep where
  | create (ok : Bool)
  | allocate (ok : Bool)
  | lock
  | register
  | unlock
  | recv (chunk : List UInt8)
  | disconnect
  | check
  | process
  | withdraw
  | close
  | finish
  deriving DecidableEq

inductive SocketStep where
  | accept (port : Port) (c : Nat) (fd : Int)
  | client (c : Nat) (step : ClientStep)
  | sendFailure (port : Port)

/-- Taking the global socket: the previous connection is shut down, not closed. -/
def registerClient (s : Sockets) (port : Port) (fd : Int) : Sockets :=
  (if s.sock port ≠ -1 then s.shutdown (s.sock port) else s).setSock port fd

/-- `tcp_client_handler_9010`, `_9011` and `_9012`, step by step. -/
def clientStep (s : Sockets) (c : Nat) (cl : Client) : ClientStep → Sockets
  | .create ok =>
      if cl.phase = .accepted then
        if ok then s.setClient c { cl with phase := .started }
        -- `pthread_create` failed: the listener closes the connection itself
        else (s.close none cl.fd).setClient c { cl with phase := .refused }
      else s
  | .allocate ok =>
      if cl.phase = .started ∧ cl.port = .dataDownload then
        if ok then s.setClient c { cl with phase := .ready, stream := freshDownloadStream }
        else (s.close (some c) cl.fd).setClient c { cl with phase := .closed }
      else s
  | .lock =>
      -- `download_process_mutex`, before registering and after every chunk
      if s.processMutex = none ∧ cl.phase = .ready then
        { s.setClient c { cl with phase := .joining } with processMutex := some c }
      else if s.processMutex = none ∧ cl.phase = .received then
        { s.setClient c { cl with phase := .entered } with processMutex := some c }
      else s
  | .register =>
      if cl.phase = .joining then
        { (registerClient s cl.port cl.fd).setClient c { cl with phase := .joined } with
          log := s.log ++ [.registered c] }
      else if cl.phase = .started ∧ cl.port ≠ .dataDownload then
        (registerClient s cl.port cl.fd).setClient c { cl with phase := .receiving }
      else s
  | .unlock =>
      match cl.phase with
      | .joined => { s.setClient c { cl with phase := .receiving } with processMutex := none }
      | .processed isCurrent =>
          { s.setClient c { cl with phase := if isCurrent then .receiving else .leaving } with
            processMutex := none }
      | _ => s
  | .recv chunk =>
      if cl.phase = .receiving ∧ cl.port = .dataDownload ∧ chunk ≠ [] ∧
          chunk.length ≤ receiveSize cl.stream then
        s.setClient c { cl with
          phase := .received
          stream := cl.stream.receive chunk
          received := cl.received ++ chunk }
      else s
  | .disconnect =>
      -- `recv` returned 0 or an error
      if cl.phase = .receiving then s.setClient c { cl with phase := .leaving } else s
  | .check =>
      if cl.phase = .entered then
        s.setClient c { cl with phase := .checked (decide (s.sock cl.port = cl.fd)) }
      else s
  | .process =>
      match cl.phase with
      | .checked true =>
          let batch := processDownloadDataBatch
            (fun log packet => log ++ [DownloadEvent.dispatched c packet]) cl.stream s.log
          { s.setClient c { cl with
              phase := .processed true, stream := batch.1, parsed := cl.received } with
            log := batch.2 }
      | .checked false => s.setClient c { cl with phase := .processed false }
      | _ => s
  | .withdraw =>
      if cl.phase = .leaving then
        (if s.sock cl.port = cl.fd then s.setSock cl.port (-1) else s).setClient c
          { cl with phase := .withdrawn }
      else s
  | .close =>
      if cl.phase = .withdrawn then
        (s.close (some c) cl.fd).setClient c { cl with phase := .closed }
      else s
  | .finish => if cl.phase = .closed then s.setClient c { cl with phase := .returned } else s

/-- One step of any thread.  `accept` may return any number that is not open; a failed `send` shuts
the global socket down and clears it, under the port's mutex. -/
def socketStep (s : Sockets) : SocketStep → Sockets
  | .accept port c fd =>
      if s.clients c = none ∧ 0 ≤ fd ∧ s.files fd = none then
        { s.setClient c ⟨port, fd, .accepted, freshDownloadStream, false, [], []⟩ with
          files := Function.update s.files fd (some c) }
      else s
  | .client c step =>
      match s.clients c with
      | none => s
      | some cl => clientStep s c cl step
  | .sendFailure port =>
      if s.sock port ≠ -1 then (s.shutdown (s.sock port)).setSock port (-1) else s

/-- No connection yet. -/
def freshSockets : Sockets where
  clients _ := none
  files _ := none
  sock _ := -1
  processMutex := none
  closes := []
  log := []

def runSockets (steps : List SocketStep) : Sockets := steps.foldl socketStep freshSockets

/-! ## Ownership -/

/-- The connection's number is open: its handler has not called `close`. -/
def Phase.isOpen : Phase → Bool
  | .refused => false
  | .closed => false
  | .returned => false
  | _ => true

/-- The connection may be its port's global socket. -/
def Phase.isOwner : Phase → Bool
  | .joined => true
  | .receiving => true
  | .received => true
  | .entered => true
  | .checked _ => true
  | .processed _ => true
  | .leaving => true
  | _ => false

/-- The calls of `close` that concern connection `c`, from where its handler is. -/
def closesOf (c : Nat) : Option Client → List CloseCall
  | none => []
  | some cl =>
      match cl.phase with
      | .refused => [⟨none, some c⟩]
      | .closed => [⟨some c, some c⟩]
      | .returned => [⟨some c, some c⟩]
      | _ => []

namespace Sockets

/-- The invariant of every interleaving. -/
structure Owned (s : Sockets) : Prop where
  open_fd : ∀ c cl, s.clients c = some cl → cl.phase.isOpen → 0 ≤ cl.fd ∧ s.files cl.fd = some c
  sock : ∀ port, s.sock port = -1 ∨ ∃ c cl, s.clients c = some cl ∧ cl.port = port ∧
    cl.fd = s.sock port ∧ cl.phase.isOwner
  closes : ∀ c, s.closes.filter (fun call => call.target = some c) = closesOf c (s.clients c)
  targets : ∀ call ∈ s.closes, call.target ≠ none

/-- What a step leaves alone of connection `d`. -/
structure Untouched (s s' : Sockets) (d : Nat) : Prop where
  client : s'.clients d = s.clients d
  file : ∀ fd, s.files fd = some d → s'.files fd = some d
  sock : ∀ port, s.files (s.sock port) = some d → s'.sock port = s.sock port

theorem Untouched.refl (s : Sockets) (d : Nat) : Untouched s s d :=
  ⟨rfl, fun _ h => h, fun _ _ => rfl⟩

variable {s s' : Sockets} {c d : Nat} {cl cl' : Client} {fd : Int}

theorem isOpen_of_isOwner {phase : Phase} (h : phase.isOwner) : phase.isOpen := by
  cases phase <;> first | rfl | exact (nomatch h)

theorem closesOf_open (h : cl.phase.isOpen) : closesOf c (some cl) = [] := by
  rw [closesOf]
  generalize cl.phase = phase at h
  cases phase <;> first | rfl | exact (nomatch h)

theorem clients_update_self (hclients : s'.clients = Function.update s.clients c (some cl)) :
    s'.clients c = some cl := by
  rw [hclients, Function.update_self]

theorem clients_update_other (hclients : s'.clients = Function.update s.clients c (some cl))
    (h : d ≠ c) : s'.clients d = s.clients d := by
  rw [hclients, Function.update_of_ne h]

-- Two open connections never share a number.
theorem Owned.fd_ne (h : s.Owned) (hc : s.clients c = some cl) (hd : s.clients d = some cl')
    (hopen : cl.phase.isOpen) (hopen' : cl'.phase.isOpen) (hne : d ≠ c) : cl'.fd ≠ cl.fd := by
  intro heq
  have hfc := (h.open_fd c cl hc hopen).2
  have hfd := (h.open_fd d cl' hd hopen').2
  rw [heq, hfc] at hfd
  exact hne (Option.some.inj hfd).symm

-- A step of an open connection that stays open, moving the global sockets only as it may.
theorem Owned.update (h : s.Owned) (hc : s.clients c = some cl) (hopen : cl.phase.isOpen)
    (hclients : s'.clients = Function.update s.clients c (some cl')) (hport : cl'.port = cl.port)
    (hfd : cl'.fd = cl.fd) (hopen' : cl'.phase.isOpen) (hfiles : s'.files = s.files)
    (hcloses : s'.closes = s.closes)
    (hsock : ∀ port, s'.sock port = -1 ∨
      (s'.sock port = s.sock port ∧ s.sock port ≠ cl.fd) ∨
      (port = cl.port ∧ s'.sock port = cl.fd ∧ cl'.phase.isOwner)) : s'.Owned where
  open_fd d cl₁ hd hopen₁ := by
    rw [hfiles]
    by_cases hdc : d = c
    · subst hdc
      rw [clients_update_self hclients] at hd
      cases hd
      rw [hfd]
      exact h.open_fd d cl hc hopen
    · rw [clients_update_other hclients hdc] at hd
      exact h.open_fd d cl₁ hd hopen₁
  sock port := by
    obtain hnone | ⟨hsame, hne⟩ | ⟨rfl, hown, howner⟩ := hsock port
    · exact Or.inl hnone
    · obtain hnone | ⟨d, cl₁, hd, hport₁, hfd₁, howner₁⟩ := h.sock port
      · rw [hsame]
        exact Or.inl hnone
      · have hdc : d ≠ c := by
          intro heq
          subst heq
          rw [hc] at hd
          cases hd
          exact hne hfd₁.symm
        refine Or.inr ⟨d, cl₁, ?_, hport₁, ?_, howner₁⟩
        · rw [clients_update_other hclients hdc]
          exact hd
        · rw [hsame]
          exact hfd₁
    · exact Or.inr ⟨c, cl', clients_update_self hclients, hport, by rw [hfd, hown], howner⟩
  closes d := by
    rw [hcloses, h.closes d]
    by_cases hdc : d = c
    · subst hdc
      rw [clients_update_self hclients, hc, closesOf_open hopen, closesOf_open hopen']
    · rw [clients_update_other hclients hdc]
  targets := by
    rw [hcloses]
    exact h.targets

-- A step inside one connection: the global sockets stand still.
theorem Owned.move (h : s.Owned) (hc : s.clients c = some cl) (hopen : cl.phase.isOpen)
    (hclients : s'.clients = Function.update s.clients c (some cl')) (hport : cl'.port = cl.port)
    (hfd : cl'.fd = cl.fd) (hopen' : cl'.phase.isOpen)
    (howner : cl.phase.isOwner → cl'.phase.isOwner) (hfiles : s'.files = s.files)
    (hcloses : s'.closes = s.closes) (hsock : s'.sock = s.sock) : s'.Owned := by
  refine h.update hc hopen hclients hport hfd hopen' hfiles hcloses ?_
  intro port
  rw [hsock]
  obtain hnone | ⟨d, cl₁, hd, hport₁, hfd₁, howner₁⟩ := h.sock port
  · exact Or.inl hnone
  · by_cases hdc : d = c
    · subst hdc
      rw [hc] at hd
      cases hd
      exact Or.inr (Or.inr ⟨hport₁.symm, hfd₁.symm, howner howner₁⟩)
    · have hne := h.fd_ne hc hd hopen (isOpen_of_isOwner howner₁) hdc
      rw [hfd₁] at hne
      exact Or.inr (Or.inl ⟨rfl, hne⟩)

-- A connection that is not the global socket is closed.
theorem Owned.close (h : s.Owned) (hc : s.clients c = some cl) (hopen : cl.phase.isOpen)
    (howner : ¬ cl.phase.isOwner) (caller : Option Nat) (hdead : ¬ cl'.phase.isOpen)
    (hcalls : closesOf c (some cl') = [⟨caller, some c⟩]) :
    ((s.close caller cl.fd).setClient c cl').Owned := by
  have hfile := (h.open_fd c cl hc hopen).2
  have hcl' : ((s.close caller cl.fd).setClient c cl').clients =
    Function.update s.clients c (some cl') := rfl
  have hcloses : ((s.close caller cl.fd).setClient c cl').closes =
      s.closes ++ [⟨caller, some c⟩] := by
    rw [← hfile]
    rfl
  refine ⟨?_, ?_, ?_, ?_⟩
  · intro d cl₁ hd hopen₁
    by_cases hdc : d = c
    · subst hdc
      rw [clients_update_self hcl'] at hd
      cases hd
      exact absurd hopen₁ hdead
    · rw [clients_update_other hcl' hdc] at hd
      have hne := h.fd_ne hc hd hopen hopen₁ hdc
      obtain ⟨hpos, hfd⟩ := h.open_fd d cl₁ hd hopen₁
      refine ⟨hpos, ?_⟩
      change Function.update s.files cl.fd none cl₁.fd = some d
      rw [Function.update_of_ne hne]
      exact hfd
  · intro port
    obtain hnone | ⟨d, cl₁, hd, hport₁, hfd₁, howner₁⟩ := h.sock port
    · exact Or.inl hnone
    · have hdc : d ≠ c := by
        intro heq
        subst heq
        rw [hc] at hd
        cases hd
        exact howner howner₁
      refine Or.inr ⟨d, cl₁, ?_, hport₁, hfd₁, howner₁⟩
      rw [clients_update_other hcl' hdc]
      exact hd
  · intro d
    rw [hcloses, List.filter_append, h.closes d]
    by_cases hdc : d = c
    · subst hdc
      rw [clients_update_self hcl', hc, closesOf_open hopen, hcalls,
        List.filter_cons_of_pos (by simp)]
      rfl
    · rw [clients_update_other hcl' hdc, List.filter_cons_of_neg (by simpa using Ne.symm hdc)]
      exact List.append_nil _
  · rw [hcloses]
    intro call hcall
    obtain hcall | hcall := List.mem_append.mp hcall
    · exact h.targets call hcall
    · obtain rfl := List.mem_singleton.mp hcall
      exact Option.some_ne_none c

-- A handler that has closed its number returns.
theorem Owned.finish (h : s.Owned) (hc : s.clients c = some cl) (hphase : cl.phase = .closed) :
    (s.setClient c { cl with phase := .returned }).Owned := by
  have hclients : (s.setClient c { cl with phase := .returned }).clients =
    Function.update s.clients c (some { cl with phase := .returned }) := rfl
  refine ⟨?_, ?_, ?_, h.targets⟩
  · intro d cl₁ hd hopen
    by_cases hdc : d = c
    · subst hdc
      rw [clients_update_self hclients] at hd
      cases hd
      exact absurd hopen Bool.false_ne_true
    · rw [clients_update_other hclients hdc] at hd
      exact h.open_fd d cl₁ hd hopen
  · intro port
    obtain hnone | ⟨d, cl₁, hd, hport, hfd, howner⟩ := h.sock port
    · exact Or.inl hnone
    · have hdc : d ≠ c := by
        intro heq
        subst heq
        rw [hc] at hd
        cases hd
        rw [hphase] at howner
        exact Bool.false_ne_true howner
      refine Or.inr ⟨d, cl₁, ?_, hport, hfd, howner⟩
      rw [clients_update_other hclients hdc]
      exact hd
  · intro d
    refine (h.closes d).trans ?_
    by_cases hdc : d = c
    · subst hdc
      rw [clients_update_self hclients, hc, closesOf, closesOf, hphase]
    · rw [clients_update_other hclients hdc]

-- `shutdown` marks the connection its number stands for, and nothing else.
theorem shutdown_clients (s : Sockets) (fd : Int) (c : Nat) :
    (s.shutdown fd).clients c = (s.clients c).map fun cl =>
      if s.files fd = some c then { cl with shut := true } else cl := by
  rw [shutdown]
  cases hfile : s.files fd with
  | none => simp
  | some d =>
    dsimp only
    cases hd : s.clients d with
    | none =>
      by_cases hdc : d = c
      · subst hdc
        rw [hd]
        rfl
      · simp [hdc]
    | some cl =>
      by_cases hdc : d = c
      · subst hdc
        simp [setClient, hd]
      · simp [setClient, hdc, Function.update_of_ne (Ne.symm hdc)]

theorem shutdown_same (s : Sockets) (fd : Int) :
    (s.shutdown fd).files = s.files ∧ (s.shutdown fd).sock = s.sock ∧
      (s.shutdown fd).closes = s.closes ∧ (s.shutdown fd).processMutex = s.processMutex ∧
      (s.shutdown fd).log = s.log := by
  rw [shutdown]
  split
  · exact ⟨rfl, rfl, rfl, rfl, rfl⟩
  · split
    · exact ⟨rfl, rfl, rfl, rfl, rfl⟩
    · exact ⟨rfl, rfl, rfl, rfl, rfl⟩

-- Ownership does not look at `shut`.
theorem shutdown_client_of (h : (s.shutdown fd).clients c = some cl') :
    ∃ cl shut, s.clients c = some cl ∧ cl' = { cl with shut := shut } := by
  rw [shutdown_clients] at h
  obtain ⟨cl, hc, rfl⟩ := Option.map_eq_some_iff.mp h
  split
  · exact ⟨cl, true, hc, rfl⟩
  · exact ⟨cl, cl.shut, hc, rfl⟩

theorem shutdown_client (fd : Int) (h : s.clients c = some cl) :
    ∃ shut, (s.shutdown fd).clients c = some { cl with shut := shut } := by
  rw [shutdown_clients, h]
  by_cases hfile : s.files fd = some c
  · exact ⟨true, by rw [Option.map_some, if_pos hfile]⟩
  · exact ⟨cl.shut, by rw [Option.map_some, if_neg hfile]⟩

theorem Owned.shutdown (h : s.Owned) (fd : Int) : (s.shutdown fd).Owned := by
  obtain ⟨hfiles, hsock, hcloses, _, _⟩ := shutdown_same s fd
  refine ⟨?_, ?_, ?_, ?_⟩
  · intro c cl' hc hopen
    obtain ⟨cl, shut, hcl, rfl⟩ := shutdown_client_of hc
    rw [hfiles]
    exact h.open_fd c cl hcl hopen
  · intro port
    rw [hsock]
    obtain hnone | ⟨d, cl, hd, hport, hfd, howner⟩ := h.sock port
    · exact Or.inl hnone
    · obtain ⟨shut, hd'⟩ := shutdown_client fd hd
      exact Or.inr ⟨d, _, hd', hport, hfd, howner⟩
  · intro c
    rw [hcloses, h.closes c, shutdown_clients]
    cases s.clients c with
    | none => rfl
    | some cl =>
      rw [Option.map_some]
      split <;> rfl
  · rw [hcloses]
    exact h.targets

-- A new connection gets a number that nobody has.
theorem Owned.accept (h : s.Owned) (hc : s.clients c = none) {fd : Int} (hpos : 0 ≤ fd)
    (hfree : s.files fd = none) (hopen : cl.phase.isOpen) (hfd : cl.fd = fd)
    (hclients : s'.clients = Function.update s.clients c (some cl))
    (hfiles : s'.files = Function.update s.files fd (some c)) (hsock : s'.sock = s.sock)
    (hcloses : s'.closes = s.closes) : s'.Owned := by
  subst hfd
  refine ⟨?_, ?_, ?_, ?_⟩
  · intro d cl₁ hd hopen₁
    rw [hfiles]
    by_cases hdc : d = c
    · subst hdc
      rw [clients_update_self hclients] at hd
      cases hd
      exact ⟨hpos, Function.update_self _ _ _⟩
    · rw [clients_update_other hclients hdc] at hd
      obtain ⟨hpos₁, hfile⟩ := h.open_fd d cl₁ hd hopen₁
      have hne : cl₁.fd ≠ cl.fd := by
        intro heq
        rw [heq, hfree] at hfile
        exact (nomatch hfile)
      rw [Function.update_of_ne hne]
      exact ⟨hpos₁, hfile⟩
  · intro port
    rw [hsock]
    obtain hnone | ⟨d, cl₁, hd, hport, hfd, howner⟩ := h.sock port
    · exact Or.inl hnone
    · have hdc : d ≠ c := by
        intro heq
        rw [heq, hc] at hd
        exact (nomatch hd)
      refine Or.inr ⟨d, cl₁, ?_, hport, hfd, howner⟩
      rw [clients_update_other hclients hdc]
      exact hd
  · intro d
    rw [hcloses, h.closes d]
    by_cases hdc : d = c
    · subst hdc
      rw [clients_update_self hclients, hc, closesOf_open hopen]
      rfl
    · rw [clients_update_other hclients hdc]
  · rw [hcloses]
    exact h.targets

-- Clearing or retiring a global socket is always allowed.
theorem Owned.clear (h : s.Owned) (port : Port) : (s.setSock port (-1)).Owned := by
  refine ⟨h.open_fd, ?_, h.closes, h.targets⟩
  intro p
  by_cases hp : p = port
  · subst hp
    exact Or.inl (Function.update_self _ _ _)
  · change Function.update s.sock port (-1) p = -1 ∨ _
    have hsame : (s.setSock port (-1)).sock p = s.sock p := Function.update_of_ne hp _ _
    change (s.setSock port (-1)).sock p = -1 ∨ _
    rw [hsame]
    exact h.sock p

-- The connection takes its port's global socket.
theorem Owned.register (h : s.Owned) (hc : s.clients c = some cl) (hopen : cl.phase.isOpen)
    {phase : Phase} (hopen' : phase.isOpen) (howner : phase.isOwner) :
    ((registerClient s cl.port cl.fd).setClient c { cl with phase := phase }).Owned := by
  have hshut : (if s.sock cl.port ≠ -1 then s.shutdown (s.sock cl.port) else s).Owned := by
    split
    · exact h.shutdown _
    · exact h
  have hcshut : ∃ shut, (if s.sock cl.port ≠ -1 then s.shutdown (s.sock cl.port) else s).clients c =
      some { cl with shut := shut } := by
    split
    · exact shutdown_client _ hc
    · exact ⟨cl.shut, hc⟩
  rw [registerClient]
  generalize (if s.sock cl.port ≠ -1 then s.shutdown (s.sock cl.port) else s) = t at hshut hcshut
  obtain ⟨shut, hct⟩ := hcshut
  refine hshut.update hct hopen rfl rfl rfl hopen' rfl rfl ?_
  intro port
  by_cases hp : port = cl.port
  · subst hp
    exact Or.inr (Or.inr ⟨rfl, Function.update_self _ _ _, howner⟩)
  · have hsame : (t.setSock cl.port cl.fd).sock port = t.sock port := Function.update_of_ne hp _ _
    change (t.setSock cl.port cl.fd).sock port = -1 ∨
      ((t.setSock cl.port cl.fd).sock port = _ ∧ _) ∨ _
    rw [hsame]
    obtain hnone | ⟨d, cl₁, hd, hport₁, hfd₁, howner₁⟩ := hshut.sock port
    · exact Or.inl hnone
    · have hdc : d ≠ c := by
        intro heq
        subst heq
        rw [hct] at hd
        cases hd
        exact hp hport₁.symm
      have hne := hshut.fd_ne hct hd hopen (isOpen_of_isOwner howner₁) hdc
      rw [hfd₁] at hne
      exact Or.inr (Or.inl ⟨rfl, hne⟩)

-- The handler leaves: if the global socket is its own number, it is its own connection.
theorem Owned.withdraw (h : s.Owned) (hc : s.clients c = some cl) (hopen : cl.phase.isOpen) :
    ((if s.sock cl.port = cl.fd then s.setSock cl.port (-1) else s).setClient c
      { cl with phase := .withdrawn }).Owned := by
  have hother : ∀ port, s.sock port ≠ -1 → port ≠ cl.port ∨ s.sock port ≠ cl.fd →
      s.sock port ≠ cl.fd := by
    intro port hsome hor heq
    obtain hnone | ⟨d, cl₁, hd, hport₁, hfd₁, howner₁⟩ := h.sock port
    · exact hsome hnone
    · by_cases hdc : d = c
      · subst hdc
        rw [hc] at hd
        cases hd
        obtain hp | hne := hor
        · exact hp hport₁.symm
        · exact hne heq
      · exact h.fd_ne hc hd hopen (isOpen_of_isOwner howner₁) hdc (by rw [hfd₁, heq])
  split
  next heq =>
    refine h.update hc hopen rfl rfl rfl rfl rfl rfl ?_
    intro port
    by_cases hp : port = cl.port
    · subst hp
      exact Or.inl (Function.update_self _ _ _)
    · have hsame : (s.setSock cl.port (-1)).sock port = s.sock port := Function.update_of_ne hp _ _
      change (s.setSock cl.port (-1)).sock port = -1 ∨
        ((s.setSock cl.port (-1)).sock port = _ ∧ _) ∨ _
      rw [hsame]
      by_cases hsome : s.sock port = -1
      · exact Or.inl hsome
      · exact Or.inr (Or.inl ⟨rfl, hother port hsome (Or.inl hp)⟩)
  next hne =>
    refine h.update hc hopen rfl rfl rfl rfl rfl rfl ?_
    intro port
    by_cases hsome : s.sock port = -1
    · exact Or.inl hsome
    · refine Or.inr (Or.inl ⟨rfl, hother port hsome ?_⟩)
      by_cases hp : port = cl.port
      · subst hp
        exact Or.inr hne
      · exact Or.inl hp

/-! ### Every step -/

theorem Owned.clientStep (h : s.Owned) (hc : s.clients c = some cl) (step : ClientStep) :
    (clientStep s c cl step).Owned := by
  -- `alive` for the steps that only move the program counter of an open connection
  have alive : ∀ {cl' : Client} {s' : Sockets}, cl.phase.isOpen →
      s'.clients = Function.update s.clients c (some cl') → cl'.port = cl.port → cl'.fd = cl.fd →
      cl'.phase.isOpen → (cl.phase.isOwner → cl'.phase.isOwner) → s'.files = s.files →
      s'.closes = s.closes → s'.sock = s.sock → s'.Owned := h.move hc
  cases step with
  | create ok =>
    simp only [CanGateway.clientStep]
    split
    next hphase =>
      split
      · exact alive (by rw [hphase]; rfl) rfl rfl rfl rfl (by rw [hphase]; exact id) rfl rfl rfl
      · exact h.close hc (by rw [hphase]; rfl) (by rw [hphase]; exact nofun) none nofun rfl
    next => exact h
  | allocate ok =>
    simp only [CanGateway.clientStep]
    split
    next hphase =>
      split
      · exact alive (by rw [hphase.1]; rfl) rfl rfl rfl rfl (by rw [hphase.1]; exact nofun)
          rfl rfl rfl
      · exact h.close hc (by rw [hphase.1]; rfl) (by rw [hphase.1]; exact nofun) (some c) nofun rfl
    next => exact h
  | lock =>
    simp only [CanGateway.clientStep]
    split
    next hphase =>
      exact alive (by rw [hphase.2]; rfl) rfl rfl rfl rfl (by rw [hphase.2]; exact nofun)
        rfl rfl rfl
    next =>
      split
      next hphase =>
        exact alive (by rw [hphase.2]; rfl) rfl rfl rfl rfl (fun _ => rfl) rfl rfl rfl
      next => exact h
  | register =>
    simp only [CanGateway.clientStep]
    split
    next hphase =>
      have hreg : ((registerClient s cl.port cl.fd).setClient c
          { cl with phase := .joined }).Owned :=
        h.register hc (by rw [hphase]; rfl) rfl rfl
      exact ⟨hreg.open_fd, hreg.sock, hreg.closes, hreg.targets⟩
    next =>
      split
      next hphase => exact h.register hc (by rw [hphase.1]; rfl) rfl rfl
      next => exact h
  | unlock =>
    simp only [CanGateway.clientStep]
    split
    next hphase => exact alive (by rw [hphase]; rfl) rfl rfl rfl rfl (fun _ => rfl) rfl rfl rfl
    next isCurrent hphase =>
      exact alive (by rw [hphase]; rfl) rfl rfl rfl (by cases isCurrent <;> rfl)
        (fun _ => by cases isCurrent <;> rfl) rfl rfl rfl
    next => exact h
  | recv chunk =>
    simp only [CanGateway.clientStep]
    split
    next hphase => exact alive (by rw [hphase.1]; rfl) rfl rfl rfl rfl (fun _ => rfl) rfl rfl rfl
    next => exact h
  | disconnect =>
    simp only [CanGateway.clientStep]
    split
    next hphase => exact alive (by rw [hphase]; rfl) rfl rfl rfl rfl (fun _ => rfl) rfl rfl rfl
    next => exact h
  | check =>
    simp only [CanGateway.clientStep]
    split
    next hphase => exact alive (by rw [hphase]; rfl) rfl rfl rfl rfl (fun _ => rfl) rfl rfl rfl
    next => exact h
  | process =>
    simp only [CanGateway.clientStep]
    split
    next hphase => exact alive (by rw [hphase]; rfl) rfl rfl rfl rfl (fun _ => rfl) rfl rfl rfl
    next hphase => exact alive (by rw [hphase]; rfl) rfl rfl rfl rfl (fun _ => rfl) rfl rfl rfl
    next => exact h
  | withdraw =>
    simp only [CanGateway.clientStep]
    split
    next hphase => exact h.withdraw hc (by rw [hphase]; rfl)
    next => exact h
  | close =>
    simp only [CanGateway.clientStep]
    split
    next hphase =>
      exact h.close hc (by rw [hphase]; rfl) (by rw [hphase]; exact nofun) (some c) nofun rfl
    next => exact h
  | finish =>
    simp only [CanGateway.clientStep]
    split
    next hphase => exact h.finish hc hphase
    next => exact h

theorem Owned.step (h : s.Owned) (step : SocketStep) : (socketStep s step).Owned := by
  cases step with
  | accept port c fd =>
    simp only [socketStep]
    split
    next hfree => exact h.accept hfree.1 hfree.2.1 hfree.2.2 rfl rfl rfl rfl rfl rfl
    next => exact h
  | client c step =>
    simp only [socketStep]
    split
    next => exact h
    next cl hc => exact h.clientStep hc step
  | sendFailure port =>
    simp only [socketStep]
    split
    next => exact (h.shutdown _).clear port
    next => exact h

theorem owned_fresh : freshSockets.Owned :=
  ⟨fun _ _ h => (nomatch h), fun _ => Or.inl rfl, fun _ => rfl, fun _ h => (nomatch h)⟩

theorem owned_run (steps : List SocketStep) : (runSockets steps).Owned :=
  List.foldlRecOn steps socketStep owned_fresh fun _ h step _ => h.step step

/-- The steps with which a handler ends. -/
def exitSteps : List ClientStep := [.allocate false, .disconnect, .withdraw, .close, .finish]

-- A connection that is no longer, or never was, the global socket closes its own number only.
theorem Owned.untouched_close (h : s.Owned) (hc : s.clients c = some cl) (hopen : cl.phase.isOpen)
    (caller : Option Nat) (hdc : d ≠ c) :
    Untouched s ((s.close caller cl.fd).setClient c cl') d := by
  refine ⟨Function.update_of_ne hdc _ _, ?_, fun _ _ => rfl⟩
  intro fd hfile
  have hne : fd ≠ cl.fd := by
    intro heq
    rw [heq, (h.open_fd c cl hc hopen).2] at hfile
    exact hdc (Option.some.inj hfile).symm
  change Function.update s.files cl.fd none fd = some d
  rw [Function.update_of_ne hne]
  exact hfile

-- The end of a handler touches no other connection.
theorem Owned.untouched_exit (h : s.Owned) {step : ClientStep} (hexit : step ∈ exitSteps)
    (hdc : d ≠ c) : Untouched s (socketStep s (.client c step)) d := by
  simp only [socketStep]
  split
  · exact Untouched.refl s d
  next cl hc =>
    simp only [exitSteps, List.mem_cons, List.not_mem_nil, or_false] at hexit
    obtain rfl | rfl | rfl | rfl | rfl := hexit
    · simp only [CanGateway.clientStep]
      split
      next hphase =>
        exact h.untouched_close hc (by rw [hphase.1]; rfl) (some c) hdc
      next => exact Untouched.refl s d
    · simp only [CanGateway.clientStep]
      split
      · exact ⟨Function.update_of_ne hdc _ _, fun _ hfile => hfile, fun _ _ => rfl⟩
      · exact Untouched.refl s d
    · simp only [CanGateway.clientStep]
      split
      next hphase =>
        split
        next heq =>
          refine ⟨Function.update_of_ne hdc _ _, fun _ hfile => hfile, ?_⟩
          intro port hfile
          have hne : port ≠ cl.port := by
            intro hp
            have hopen : cl.phase.isOpen := by rw [hphase]; rfl
            rw [hp, heq, (h.open_fd c cl hc hopen).2] at hfile
            exact hdc (Option.some.inj hfile).symm
          exact Function.update_of_ne hne _ _
        next => exact ⟨Function.update_of_ne hdc _ _, fun _ hfile => hfile, fun _ _ => rfl⟩
      next => exact Untouched.refl s d
    · simp only [CanGateway.clientStep]
      split
      next hphase => exact h.untouched_close hc (by rw [hphase]; rfl) (some c) hdc
      next => exact Untouched.refl s d
    · simp only [CanGateway.clientStep]
      split
      · exact ⟨Function.update_of_ne hdc _ _, fun _ hfile => hfile, fun _ _ => rfl⟩
      · exact Untouched.refl s d

end Sockets

end CanGateway
