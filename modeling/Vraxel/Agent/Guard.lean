import Vraxel.Lib.Rely
import Vraxel.Go.IP
/-
  Tunnels through an agent (`lib/agent/datachan/guard.go`, `tcp.go`,
  `lib/agent/loopback/loopback.go`): the agent checks the port against the operator's list and
  the pushed one, resolves the host to a loopback IP, and dials that IP.
-/

namespace Vraxel.Agent

open Net Strconv Txn Interleave

structure Guard where
  operator : Option (Finset Int)
  server : Option (Finset Int)

def portSet (ports : List Int) : Option (Finset Int) := if ports = [] then none else some ports.toFinset

def newGuard (ports : List Int) : Guard := ⟨portSet ports, none⟩

namespace Guard

def setPorts (g : Guard) (ports : List Int) : Guard := { g with server := portSet ports }

def effectiveLocked (g : Guard) : Option (Finset Int) :=
  match g.operator, g.server with
  | none, server => server
  | some operator, none => some operator
  | some operator, some server => some (server.filter (· ∈ operator))

def lets (allowed : Option (Finset Int)) (port : Int) : Bool :=
  match allowed with
  | none => true
  | some ports => port ∈ ports

theorem effectiveLocked_subset (g : Guard) {port : Int} (h : lets g.effectiveLocked port) : lets g.operator port := by
  obtain ⟨operator, server⟩ := g
  cases operator with
  | none => rfl
  | some ports =>
    cases server with
    | none => exact h
    | some pushed =>
      simp only [lets, effectiveLocked, Finset.mem_filter, decide_eq_true_eq] at h ⊢
      exact h.2

end Guard

theorem lets_newGuard {ports : List Int} {port : Int} :
    Guard.lets (newGuard ports).operator port ↔ (ports ≠ [] → port ∈ ports) := by
  by_cases h : ports = [] <;> simp [newGuard, portSet, Guard.lets, h]

theorem lets_effectiveLocked_newGuard {ports : List Int} {port : Int} :
    Guard.lets (newGuard ports).effectiveLocked port ↔ Guard.lets (newGuard ports).operator port := by
  simp only [newGuard, Guard.effectiveLocked]
  cases portSet ports <;> exact Iff.rfl

/-- The guard, how many lookups and connections there were, and every address that was dialled. -/
structure TunnelState where
  guard : Guard
  lookups : Nat
  connects : Nat
  dialled : List TCPAddr

def TunnelState.init (ports : List Int) : TunnelState := ⟨newGuard ports, 0, 0, []⟩

inductive TunnelStmt where
  | setPorts (ports : List Int)
  | effective
  | lookupIP (host : String)
  | dial (address : String) (timeout : Int)

def TunnelStmt.Ans : TunnelStmt → Type
  | .effective => Option (Finset Int)
  | .lookupIP _ => List IP
  | _ => Unit

abbrev tunnelSig : Sig := ⟨TunnelStmt, TunnelStmt.Ans⟩

section Semantics

variable (net : Network)

/-- `Dialer.DialContext`. All the addresses it may connect to are recorded. -/
def TunnelState.dial (address : String) (timeout : Int) : M TunnelState String Unit := fun s =>
  match tcpAddrs net s.lookups address with
  | .error e => (.error e, { s with lookups := s.lookups + 1 })
  | .ok addrs =>
    (net.connect s.connects timeout addrs,
      { s with lookups := s.lookups + 1, connects := s.connects + 1, dialled := s.dialled ++ addrs })

def TunnelStmt.sem : (q : TunnelStmt) → M TunnelState String q.Ans
  | .setPorts ports => write fun s => { s with guard := s.guard.setPorts ports }
  | .effective => read fun s => s.guard.effectiveLocked
  | .lookupIP host => fun s => (net.lookupIP s.lookups host, { s with lookups := s.lookups + 1 })
  | .dial address timeout => TunnelState.dial net address timeout

end Semantics

structure StreamOpen where
  target : String
  timeoutMs : Int

structure StreamAccept where
  ok : Bool
  code : String
  error : String

def streamErrTargetNotAllowed : String := "target_not_allowed"
def streamErrDialFailed : String := "dial_failed"

def second : Int := 1000000000
def millisecond : Int := 1000000
def defaultDialTimeout : Int := 10 * second

namespace Tunnel

open Prog

abbrev TunnelM : Type → Type := Prog tunnelSig String

def checkIPs (host : String) (ips : List IP) : TunnelM String :=
  match ips.find? (!·.isLoopback) with
  | some ip => fail ("target " ++ host ++ " resolves to non-loopback " ++ ip.string)
  | none =>
    match ips with
    | [] => fail ("target " ++ host ++ " resolves to nothing")
    | ip :: _ => return ip.string

def resolveHost (host : String) : TunnelM String :=
  match IP.parse host with
  | some ip => if ip.isLoopback then return ip.string else fail ("target " ++ host ++ " is not a loopback address")
  | none => do
    let ips ← mapErr (fun e => "resolve target " ++ host ++ ": " ++ e) (ask (G := tunnelSig) (.lookupIP host))
    checkIPs host ips

def loopbackResolve (hostport : String) : TunnelM String :=
  match Netip.splitHostPort hostport with
  | none => fail ("target " ++ quote hostport ++ " is not host:port")
  | some (host, port) => do
    let ip ← resolveHost host
    return joinHostPort ip port

def resolve (target : String) : TunnelM String :=
  match Netip.splitHostPort target with
  | none => fail ("target " ++ quote target ++ " is not host:port")
  | some (_, portStr) =>
    match parseInt portStr with
    | none => fail ("target " ++ quote target ++ " has an invalid port")
    | some port => do
      if port < 1 ∨ 65535 < port then fail ("target " ++ quote target ++ " has an invalid port")
      else
        let allowed ← ask (G := tunnelSig) .effective
        if Guard.lets allowed port then loopbackResolve target
        else fail ("port " ++ formatInt port ++ " is not in the allowlist")

def reject (code msg : String) : TunnelM StreamAccept := return ⟨false, code, msg⟩

def serveTCP (stream : StreamOpen) : TunnelM StreamAccept := do
  match ← attempt (resolve stream.target) with
  | .error err => reject streamErrTargetNotAllowed err
  | .ok dialAddr =>
    let timeout := if 0 < stream.timeoutMs then toInt64 (stream.timeoutMs * millisecond) else defaultDialTimeout
    match ← attempt (ask (G := tunnelSig) (.dial dialAddr timeout)) with
    | .error err => reject streamErrDialFailed err
    | .ok _ => return ⟨true, "", ""⟩

end Tunnel

inductive TunnelCall where
  | setPorts (ports : List Int)
  | serveTCP (stream : StreamOpen)

def tunnelProg : TunnelCall → Tunnel.TunnelM (Option StreamAccept)
  | .setPorts ports => do
    let _ : Unit ← Prog.ask (G := tunnelSig) (.setPorts ports)
    return none
  | .serveTCP stream => do
    let answer ← Tunnel.serveTCP stream
    return some answer

def tunnelSystem (net : Network) : System TunnelState tunnelSig String (Option StreamAccept) TunnelCall :=
  ⟨TunnelStmt.sem net, fun _ _ => true, tunnelProg⟩

/-! Where the streams go. -/

/-- A loopback address, on a port of the operator's list if there is one. -/
def Confined (ports : List Int) (d : TCPAddr) : Prop := d.ip.isLoopback ∧ (ports ≠ [] → (d.port : Int) ∈ ports)

section Confinement

variable (net : Network) (ports : List Int)

/-- The dialer is given addresses for which it connects to a confined address, whatever the resolver says. -/
def DialsConfined : TunnelStmt → Prop
  | .dial address _ => ∀ n, ∃ d, Confined ports d ∧ tcpAddrs net n address = .ok [d]
  | _ => True

/-- The operator's list is the one of the start, and all that was dialled is confined. -/
structure Confinement (s : TunnelState) : Prop where
  operator : s.guard.operator = (newGuard ports).operator
  dialled : ∀ d ∈ s.dialled, Confined ports d

theorem confinement_exec (q : TunnelStmt) (s : TunnelState) (h : Confinement ports s) (hq : DialsConfined net ports q) :
    Confinement ports ((q.sem net).exec s) := by
  cases q with
  | dial address timeout =>
    obtain ⟨d, hd, haddrs⟩ := hq s.lookups
    have hexec : ((TunnelStmt.dial address timeout).sem net).exec s =
        { s with lookups := s.lookups + 1, connects := s.connects + 1, dialled := s.dialled ++ [d] } := by
      simp [TunnelStmt.sem, M.exec, M.run, TunnelState.dial, haddrs]
    rw [hexec]
    exact ⟨h.operator, forall_mem_concat h.dialled hd⟩
  | _ => exact ⟨h.operator, h.dialled⟩

/-- Nobody owns anything: a program knows what the invariant says. -/
def confining : Discipline TunnelState tunnelSig String Empty where
  take _ _ _ := none
  owned _ _ := False
  rely _ _ _ := True
  pre _ q _ := DialsConfined net ports q

theorem confining_sound :
    (confining net ports).Sound (tunnelSystem net) (Confinement ports) (fun _ _ => True) fun _ _ => False where
  refl _ _ := trivial
  trans _ _ _ _ _ _ := trivial
  owned _ _ _ _ := id
  inv q s _ hs hq _ _ _ := confinement_exec net ports q s hs hq
  take _ _ _ _ _ _ _ _ _ h := by cases h
  others _ _ _ _ _ _ _ _ _ := trivial
  need _ _ _ _ _ _ _ _ h := h.elim

def Answers {α : Type} (Q : α → Prop) : Except String α → Prop
  | .ok a => Q a
  | .error _ => True

abbrev SafeTunnel {α : Type} (Q : Except String α → Prop) (v : Option Empty) (s : TunnelState) (p : Tunnel.TunnelM α) : Prop :=
  (confining net ports).Safe (tunnelSystem net) (Confinement ports) (fun _ _ => True) (fun _ _ r => Q r) v s p

theorem safe_resolveHost (host : String) (v : Option Empty) (s : TunnelState) :
    SafeTunnel net ports (Answers fun text => ∃ ip : IP, ip.isLoopback ∧ text = ip.string) v s (Tunnel.resolveHost host) := by
  unfold Tunnel.resolveHost
  split
  next ip hparse =>
    split
    next hloopback => exact ⟨ip, hloopback, rfl⟩
    · exact trivial
  · refine Discipline.safe_exec (fun _ _ _ => trivial) fun s₁ r s₂ _ _ _ _ _ => ?_
    cases r with
    | error e => exact trivial
    | ok ips =>
      show SafeTunnel net ports _ _ s₂ (Tunnel.checkIPs host ips)
      unfold Tunnel.checkIPs
      split
      · exact trivial
      next hall =>
        split
        · exact trivial
        next ip rest hall =>
          -- none of the IPs is another one than a loopback IP, so the first is one
          have hfirst := List.find?_eq_none.1 hall ip List.mem_cons_self
          exact ⟨ip, by simpa using hfirst, rfl⟩

theorem safe_resolve (target : String) (v : Option Empty) (s : TunnelState) :
    SafeTunnel net ports (Answers fun address => ∀ timeout, DialsConfined net ports (.dial address timeout)) v s
      (Tunnel.resolve target) := by
  unfold Tunnel.resolve
  split
  · exact trivial
  next host portStr hsplit =>
    split
    · exact trivial
    next port hport =>
      split
      · exact trivial
      next hrange =>
        refine fun s₁ _ hs₁ => ⟨trivial, fun _ _ => ?_⟩
        show SafeTunnel net ports _ none s₁ (if Guard.lets s₁.guard.effectiveLocked port then _ else _)
        split
        next hlets =>
          simp only [Tunnel.loopbackResolve, hsplit]
          refine (safe_resolveHost net ports host none s₁).bind ?_ fun _ _ _ _ => trivial
          rintro _ _ _ ⟨ip, hip, rfl⟩ timeout n
          obtain ⟨ip', hip', hdial⟩ := tcpAddrs_joinHostPort net n hip (not_mem_port hsplit) hport (by omega)
          refine ⟨_, ⟨hip', ?_⟩, hdial⟩
          have hoperator := s₁.guard.effectiveLocked_subset hlets
          rw [hs₁.operator] at hoperator
          rw [Int.toNat_of_nonneg (by omega)]
          exact lets_newGuard.1 hoperator
        · exact trivial

theorem safe_tunnelProg (c : TunnelCall) (s : TunnelState) :
    SafeTunnel net ports (fun _ => True) none s (tunnelProg c) := by
  cases c with
  | setPorts pushed => exact fun s₁ _ _ => ⟨trivial, fun _ _ => trivial⟩
  | serveTCP stream =>
    refine Discipline.Safe.bind (Q := fun _ _ _ => True) ?_ (fun _ _ _ _ => trivial) (fun _ _ _ _ => trivial)
    refine (safe_resolve net ports stream.target none s).attempt.bind ?_ fun _ _ _ _ => trivial
    rintro v s₁ r ⟨_, ⟨⟩, hresolved⟩
    cases r with
    | error e => exact trivial
    | ok address =>
      refine Discipline.safe_exec (fun _ _ _ => hresolved defaultDialTimeout) fun s₂ r s₃ _ _ _ _ _ => ?_
      cases r <;> exact trivial

/-- In every interleaving of streams and pushes all that is dialled is loopback addresses, on ports of
the operator's list if it is not empty; and after any pushes the guard lets no port through that it did
not let through before them. -/
theorem tunnels_confined (es : List (Event TunnelCall)) :
    ∀ st ∈ Transition.states (tunnelSystem net).step (.init (.init ports)) es,
      (∀ d ∈ st.store.dialled, d.ip.isLoopback ∧ (ports ≠ [] → (d.port : Int) ∈ ports)) ∧
        ∀ port, Guard.lets st.store.guard.effectiveLocked port → Guard.lets (newGuard ports).effectiveLocked port := by
  intro st hst
  have hinit : Confinement ports (.init ports) := ⟨rfl, fun d hd => by cases hd⟩
  have hmeets : Transition.Along (tunnelSystem net).step ((tunnelSystem net).Meets fun _ _ => True) (.init (.init ports)) es :=
    Transition.along_of_forall fun _ _ _ _ => trivial
  have h := ((confining_sound net ports).forall_safe (fun _ _ _ _ h _ => h) (safe_tunnelProg net ports) hinit
    (fun _ h => h) hmeets st hst).1
  refine ⟨h.dialled, fun port hport => ?_⟩
  have hoperator := st.store.guard.effectiveLocked_subset hport
  rw [h.operator] at hoperator
  exact lets_effectiveLocked_newGuard.2 hoperator

end Confinement

/-! A name that is a loopback address only when it is checked. -/

def rebindingNetwork : Network where
  lookupIP n _ := .ok [if n = 0 then [127, 0, 0, 1] else [10, 0, 0, 8]]
  service _ := none
  connect _ _ _ := .ok ()

def openTwoPorts : List (Event TunnelCall) :=
  [.call (.setPorts [22, 80]), .step 0, .call (.serveTCP ⟨"printer:22", 0⟩), .step 1, .step 1, .step 1,
    .call (.serveTCP ⟨"printer:80", 0⟩), .step 2]

/-- With port 22 in the operator's list, one of the streams is dialled, to the IP that was checked. -/
theorem rebound_name_confined :
    let st := Transition.run (tunnelSystem rebindingNetwork).step (.init (.init [22])) openTwoPorts
    st.store.dialled = [⟨IP.ofAddr (.v4 0x7F000001#32), 22, ""⟩] ∧
      (∀ d ∈ st.store.dialled, d.ip.isLoopback ∧ ([22] ≠ ([] : List Int) → (d.port : Int) ∈ ([22] : List Int))) ∧
        ∀ port, Guard.lets st.store.guard.effectiveLocked port → Guard.lets (newGuard [22]).effectiveLocked port :=
  ⟨by decide, tunnels_confined rebindingNetwork [22] openTwoPorts _ (Transition.run_mem_states _ _ _)⟩

/-! The ports the agent reports. -/

def Guard.ports (g : Guard) : List Int := (g.effectiveLocked.getD ∅).sort

theorem mem_ports {g : Guard} {port : Int} : port ∈ g.ports ↔ port ∈ g.effectiveLocked.getD ∅ := by
  simp [Guard.ports]

theorem ports_eq_nil_iff {g : Guard} : g.ports = [] ↔ g.effectiveLocked.getD ∅ = ∅ := by
  rw [List.eq_nil_iff_forall_not_mem, Finset.eq_empty_iff_forall_notMem]
  simp only [mem_ports]

def IsPort (port : Int) : Prop := 1 ≤ port ∧ port ≤ 65535

section Ports

variable (net : Network) (s : TunnelState)

/-- The target is on this port of a host that the loopback rule accepts. -/
def LoopbackTarget (target : String) (port : Int) : Prop :=
  ∃ host portStr ip, Netip.splitHostPort target = some (host, portStr) ∧ parseInt portStr = some port ∧
    ((Tunnel.resolveHost host).alone (TunnelStmt.sem net)).result s = .ok ip

def Resolves (target : String) : Prop := ∃ address, ((Tunnel.resolve target).alone (TunnelStmt.sem net)).result s = .ok address

/-- What a reported list says of a port; the empty list stands for every port. -/
def Advertised (ports : List Int) (port : Int) : Prop := (ports = [] ∧ IsPort port) ∨ port ∈ ports

def PortsMatch : Prop :=
  (∀ port, Advertised s.guard.ports port → ∃ target, LoopbackTarget net s target port) ∧
    ∀ target port, LoopbackTarget net s target port → (Resolves net s target ↔ Advertised s.guard.ports port)

variable {net s} {target : String} {port : Int}

theorem resolves_iff (h : LoopbackTarget net s target port) :
    Resolves net s target ↔ IsPort port ∧ Guard.lets s.guard.effectiveLocked port := by
  obtain ⟨host, portStr, ip, hsplit, hport, hhost⟩ := h
  unfold Resolves Tunnel.resolve
  simp only [hsplit, hport]
  by_cases hrange : port < 1 ∨ 65535 < port
  · have hport : ¬IsPort port := by unfold IsPort; omega
    simp [hrange, hport, M.result]
  · have hport : IsPort port := by unfold IsPort; omega
    rw [if_neg hrange]
    change (∃ address, ((if Guard.lets s.guard.effectiveLocked port then Tunnel.loopbackResolve target
      else Prog.fail _ : Tunnel.TunnelM String).alone (TunnelStmt.sem net)).result s = .ok address) ↔ _
    by_cases hlets : Guard.lets s.guard.effectiveLocked port
    · rcases hrun : ((Tunnel.resolveHost host).alone (TunnelStmt.sem net)).run s with ⟨r, s'⟩
      simp_all [Tunnel.loopbackResolve, M.result, run_bind]
    · simp [hlets, M.result]

theorem loopbackTarget_localhost (h : IsInt64 port) :
    LoopbackTarget net s (joinHostPort "127.0.0.1" (formatInt port)) port := by
  have hport {c : Char} (hc : c.isDigit = false ∧ c ≠ '-') : c ∉ (formatInt port).toList := by
    intro hmem
    have := mem_formatInt hmem
    simp [hc] at this
  exact ⟨_, _, "127.0.0.1", splitHostPort_joinHostPort (by decide) ⟨hport (by decide), hport (by decide), hport (by decide)⟩,
    parseInt_formatInt h, rfl⟩

theorem portsMatch_iff :
    PortsMatch net s ↔ s.guard.effectiveLocked ≠ some ∅ ∧ ∀ port ∈ s.guard.ports, IsPort port := by
  have hlocal {port : Int} (h : IsPort port) : LoopbackTarget net s (joinHostPort "127.0.0.1" (formatInt port)) port :=
    loopbackTarget_localhost (by unfold IsPort at h; unfold IsInt64; omega)
  constructor
  · intro ⟨htargets, hmatch⟩
    have hvalid (port : Int) (h : Advertised s.guard.ports port) :
        IsPort port ∧ Guard.lets s.guard.effectiveLocked port := by
      obtain ⟨target, htarget⟩ := htargets port h
      exact (resolves_iff htarget).1 ((hmatch target port htarget).2 h)
    refine ⟨fun hempty => ?_, fun port hport => (hvalid port (.inr hport)).1⟩
    -- an empty intersection is reported as every port
    have hlets := (hvalid 80 (.inl ⟨by simp [ports_eq_nil_iff, hempty], by unfold IsPort; decide⟩)).2
    simp [hempty, Guard.lets] at hlets
  · intro ⟨hne, hvalid⟩
    have hports : ∀ port, Advertised s.guard.ports port ↔ IsPort port ∧ Guard.lets s.guard.effectiveLocked port := by
      intro port
      have hmem := hvalid port
      rw [mem_ports] at hmem
      rw [Advertised, mem_ports, ports_eq_nil_iff]
      cases heffective : s.guard.effectiveLocked with
      | none => simp [Guard.lets]
      | some ports => simp_all [Guard.lets]
    exact ⟨fun port h => ⟨_, hlocal ((hports port).1 h).1⟩, fun target port h => (resolves_iff h).trans (hports port).symm⟩

end Ports

def Guard.pushed (operator : List Int) (pushes : List (List Int)) : Guard :=
  pushes.foldl Guard.setPorts (newGuard operator)

theorem pushed_eq (operator : List Int) (pushes : List (List Int)) :
    Guard.pushed operator pushes = ⟨portSet operator, portSet (pushes.getLastD [])⟩ := by
  induction pushes using List.reverseRecOn with
  | nil => rfl
  | append_singleton pushes ports ih => simp_all [Guard.pushed, Guard.setPorts]

/-- The reported ports are those that are accepted exactly if the two lists, where both are set, have a
port in common, and only ports from 1 to 65535 are reported. -/
theorem ports_match_resolve_iff (net : Network) (s : TunnelState) (operator : List Int) (pushes : List (List Int)) :
    PortsMatch net { s with guard := .pushed operator pushes } ↔
      (operator = [] ∨ pushes.getLastD [] = [] ∨ ∃ port ∈ operator, port ∈ pushes.getLastD []) ∧
        ∀ port ∈ (Guard.pushed operator pushes).ports, IsPort port := by
  rw [portsMatch_iff]
  rw [pushed_eq]
  generalize pushes.getLastD [] = pushed
  by_cases hoperator : operator = [] <;> by_cases hpushed : pushed = [] <;>
    simp [Guard.effectiveLocked, portSet, hoperator, hpushed, Finset.filter_eq_empty_iff, and_comm]

/-- With port 80 allowed by the operator and port 443 pushed, none is accepted and every port is
    reported. -/
theorem disjoint_ports_reported :
    (Guard.pushed [80] [[443]]).ports = [] ∧ ¬PortsMatch rebindingNetwork ⟨.pushed [80] [[443]], 0, 0, []⟩ := by
  have hempty : (Guard.pushed [80] [[443]]).effectiveLocked = some ∅ := by decide
  exact ⟨ports_eq_nil_iff.2 (by rfl), fun h => (portsMatch_iff.1 h).1 hempty⟩

end Vraxel.Agent
