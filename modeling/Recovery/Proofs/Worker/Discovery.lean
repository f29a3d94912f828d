import Recovery.Proofs.Cloud.Calls
import Recovery.Proofs.InTurn
import Recovery.Proofs.Timed.Forecast
import Recovery.Proofs.Timed.Shelter
import Recovery.Proofs.Worker.Search
/-!
# Which host is found

A service is reached at the first of its candidates that resolves to an address which accepts a
connection. What the network answers may depend on all that it has been asked before, so what would
have come of a candidate is told by trying it: those before the one that is found are tried in vain,
and those after it are not tried.
-/
set_option autoImplicit false

namespace Recovery

namespace Reach

variable {Other : Interface}

/-! ## Trials -/

/-- An address is probed, and this comes of it. -/
structure Probe where
  address : Address
  reply : Except Fault Bool

namespace Probe

def accepts (p : Probe) : Bool :=
  match p.reply with
  | .ok accepted => accepted
  | .error _ => false

theorem accepts_iff {p : Probe} : p.accepts = true ↔ p.reply = .ok true := by
  rw [accepts]
  cases p.reply with
  | error e => exact ⟨nofun, nofun⟩
  | ok accepted => exact Except.ok.injEq accepted true ▸ Iff.rfl

def call (p : Probe) : (Cloud Other).Call := CloudCall.probe p.address

def asks (p : Probe) : List (Cloud Other).Call := [p.call]

/-- The address replies as the script has it. -/
def Goes (script : Script (Cloud Other)) (past : List (Cloud Other).Call) (p : Probe) : Prop :=
  (script.answer past p.call).result = p.reply

end Probe

/-- A candidate is resolved, and these of its addresses are probed. -/
structure Trial where
  host : String
  resolution : Except Fault (List Address)
  probes : List Probe

namespace Trial

def addresses (t : Trial) : List Address :=
  match t.resolution with
  | .ok addresses => addresses
  | .error _ => []

def reaches (t : Trial) : Bool := t.probes.any Probe.accepts

def call (port : Nat) (t : Trial) : (Cloud Other).Call := CloudCall.resolve t.host port

def asks (port : Nat) (t : Trial) : List (Cloud Other).Call :=
  t.call port :: t.probes.flatMap Probe.asks

/-- The host resolves as the script has it, and its addresses are probed up to one that accepts. -/
structure Goes (script : Script (Cloud Other)) (port : Nat) (past : List (Cloud Other).Call)
    (t : Trial) : Prop where
  resolution : (script.answer past (t.call port)).result = t.resolution
  probes : InTurn Probe.address Probe.asks Probe.accepts (Probe.Goes script)
    (past ++ [t.call port]) t.addresses t.probes

end Trial

/-! ## A search as it is answered -/

section Responds

variable {script : Script (Cloud Other)}

/-- Everything that is asked of the network is answered in time. -/
def Responds (script : Script (Cloud Other)) : Prop :=
  ∀ history c, IsSearch c → (script.answer history c).hangs = false

theorem anyAccepts_cons (address : Address) (addresses : List Address) :
    (anyAccepts (address :: addresses) : Task (Cloud Other) Bool) =
      Task.call (CloudCall.probe address : CloudCall Other) >>= fun r : Except Fault Bool =>
        match r with
        | .ok true => pure true
        | _ => anyAccepts addresses :=
  rfl

theorem anyAccepts_comesTo (responds : Responds script) (past : List (Cloud Other).Call)
    (addresses : List Address) :
    ∃ probes,
      InTurn Probe.address Probe.asks Probe.accepts (Probe.Goes script) past addresses probes ∧
      (anyAccepts addresses).ComesTo script past (probes.flatMap Probe.asks)
        (probes.any Probe.accepts) := by
  induction addresses generalizing past with
  | nil => exact ⟨[], .nil, Task.comesTo_pure false⟩
  | cons address addresses ih =>
    obtain ⟨p, replied, rfl⟩ : ∃ p : Probe, p.Goes script past ∧ p.address = address :=
      ⟨⟨address, (script.answer past (CloudCall.probe address)).result⟩, rfl, rfl⟩
    have called := Task.comesTo_call (responds past p.call trivial)
    rw [replied] at called
    rw [anyAccepts_cons]
    cases accepted : p.accepts with
    | true =>
      rw [Probe.accepts_iff.mp accepted] at called
      refine ⟨[p], .success replied accepted addresses, ?_⟩
      rw [List.any_cons, accepted]
      refine called.bind ?_
      exact Task.comesTo_pure true
    | false =>
      obtain ⟨probes, in_turn, rest⟩ := ih (past ++ p.asks)
      refine ⟨p :: probes, .failure replied accepted in_turn, ?_⟩
      rw [List.any_cons, accepted, Bool.false_or, List.flatMap_cons]
      refine called.bind ?_
      rw [Probe.accepts] at accepted
      cases reply : p.reply with
      | error e => exact rest
      | ok accepts =>
        rw [reply] at accepted
        cases accepted
        exact rest

theorem isReachable_eq (port : Nat) (host : String) :
    (isReachable port host : Task (Cloud Other) Bool) =
      Task.call (CloudCall.resolve host port : CloudCall Other) >>=
        fun r : Except Fault (List Address) =>
          match r with
          | .ok addresses => anyAccepts addresses
          | .error _ => pure false :=
  rfl

theorem isReachable_comesTo (responds : Responds script) (past : List (Cloud Other).Call)
    (port : Nat) (host : String) :
    ∃ t : Trial, t.host = host ∧ t.Goes script port past ∧
      (isReachable port host).ComesTo script past (t.asks port) t.reaches := by
  let c : (Cloud Other).Call := CloudCall.resolve host port
  have called := Task.comesTo_call (responds past c trivial)
  rw [isReachable_eq]
  cases resolution : (script.answer past c).result with
  | error e =>
    rw [resolution] at called
    refine ⟨⟨host, .error e, []⟩, rfl, ⟨resolution, .nil⟩, ?_⟩
    refine called.bind ?_
    exact Task.comesTo_pure false
  | ok addresses =>
    rw [resolution] at called
    obtain ⟨probes, in_turn, probed⟩ := anyAccepts_comesTo responds (past ++ [c]) addresses
    refine ⟨⟨host, .ok addresses, probes⟩, rfl, ⟨resolution, in_turn⟩, ?_⟩
    refine called.bind ?_
    exact probed

theorem firstReachable_comesTo (responds : Responds script) (past : List (Cloud Other).Call)
    (port : Nat) (hosts : List String) :
    ∃ trials,
      InTurn Trial.host (Trial.asks port) Trial.reaches (Trial.Goes script port) past hosts trials ∧
      (firstReachable port hosts).ComesTo script past (trials.flatMap (Trial.asks port))
        ((trials.find? Trial.reaches).map Trial.host) := by
  induction hosts generalizing past with
  | nil => exact ⟨[], .nil, Task.comesTo_pure none⟩
  | cons host hosts ih =>
    obtain ⟨t, rfl, goes, tried⟩ := isReachable_comesTo responds past port host
    cases reached : t.reaches with
    | true =>
      rw [reached] at tried
      refine ⟨[t], .success goes reached hosts, ?_⟩
      rw [List.find?_cons_of_pos reached]
      refine tried.bind ?_
      exact Task.comesTo_pure (some t.host)
    | false =>
      rw [reached] at tried
      obtain ⟨trials, in_turn, rest⟩ := ih (past ++ t.asks port)
      refine ⟨t :: trials, .failure goes reached in_turn, ?_⟩
      rw [List.find?_cons_of_neg (by simp [reached]), List.flatMap_cons]
      refine tried.bind ?_
      exact rest

theorem findHost_comesTo (responds : Responds script) (past : List (Cloud Other).Call)
    (s : Service) (searchDomains : List String) (port : Nat) :
    ∃ trials,
      InTurn Trial.host (Trial.asks port) Trial.reaches (Trial.Goes script port) past
        (candidates s searchDomains) trials ∧
      (findHost s searchDomains port : Saga (Cloud Other) String).run.ComesTo script past
        (trials.flatMap (Trial.asks port))
        (report s port ((trials.find? Trial.reaches).map Trial.host)) := by
  obtain ⟨trials, in_turn, beats, searched⟩ :=
    firstReachable_comesTo responds past port (candidates s searchDomains)
  refine ⟨trials, in_turn, beats ++ [], ?_⟩
  rw [← List.append_nil (trials.flatMap (Trial.asks port))]
  refine (Saga.foretold_ofTask searched).bind ?_
  cases (trials.find? Trial.reaches).map Trial.host with
  | some host => exact Saga.foretold_pure host
  | none => exact Saga.foretold_fail _

end Responds

section Steady

variable {script : Script (Cloud Other)} {port : Nat} {past : List (Cloud Other).Call} {t : Trial}

/-- What the network answers does not depend on what it was asked before. -/
def Steady (script : Script (Cloud Other)) : Prop :=
  ∀ history c, IsSearch c → (script.answer history c).result = (script.answer [] c).result

def IsAccepting (script : Script (Cloud Other)) (address : Address) : Prop :=
  (script.answer [] (CloudCall.probe address)).result = .ok true

/-- The host resolves to an address that accepts a connection. -/
def IsReached (script : Script (Cloud Other)) (port : Nat) (host : String) : Prop :=
  ∃ addresses : List Address,
    (script.answer [] (CloudCall.resolve host port)).result = .ok addresses ∧
    ∃ address ∈ addresses, IsAccepting script address

theorem Trial.Goes.reaches_iff (steady : Steady script) (goes : t.Goes script port past) :
    t.reaches = true ↔ IsReached script port t.host := by
  have accepts_iff : ∀ p ∈ t.probes, p.accepts = true ↔ IsAccepting script p.address := by
    intro p member
    obtain ⟨past', replied⟩ := goes.probes.goes.exists_past member
    have steadily : (script.answer [] p.call).result = p.reply :=
      (steady past' p.call trivial).symm.trans replied
    rw [Probe.accepts_iff, ← steadily]
    rfl
  have resolved : (script.answer [] (t.call port)).result = t.resolution :=
    (steady past (t.call port) trivial).symm.trans goes.resolution
  rw [Trial.reaches, List.any_eq_true, goes.probes.exists_iff accepts_iff]
  constructor
  · rintro ⟨address, member, accepting⟩
    refine ⟨t.addresses, resolved.trans ?_, address, member, accepting⟩
    rw [Trial.addresses] at member ⊢
    cases resolution : t.resolution with
    | ok addresses => rfl
    | error e =>
      rw [resolution] at member
      cases member
  · rintro ⟨addresses, resolution, address, member, accepting⟩
    have listed : t.addresses = addresses := by
      rw [Trial.addresses, resolved.symm.trans resolution]
    exact ⟨address, listed ▸ member, accepting⟩

end Steady

/-! ## Where the candidates stand -/

def parents (ns : String) : List String :=
  ["", "." ++ ns, "." ++ ns ++ ".svc", "." ++ ns ++ ".svc.cluster.local"]

def searches (searchDomains : List String) : List String :=
  "" :: searchDomains.map fun domain =>
    "." ++ String.ofList (domain.toList.dropWhile (· == '.'))

/-- The hosts that are offered one by one, in order; what offers none is passed over. -/
inductive Gathers {α : Type} (Offers : α → String → Prop) : List α → List String → Prop where
  | nil : Gathers Offers [] []
  | offered {a : α} {host : String} {as : List α} {hosts : List String} :
    Offers a host → Gathers Offers as hosts → Gathers Offers (a :: as) (host :: hosts)
  | passed {a : α} {as : List α} {hosts : List String} :
    (∀ host, ¬Offers a host) → Gathers Offers as hosts → Gathers Offers (a :: as) hosts

/-- A cluster IP is a host by itself, unless it is empty or, as that of a headless service, `None`.
-/
structure OffersIp (ip host : String) : Prop where
  same : ip = host
  given : ip ≠ ""
  assigned : ip ≠ "None"

/-- The cluster IPs of a service are those that it lists, or if it lists none, the one that it
has. -/
inductive HasClusterIps (s : Service) : List String → Prop where
  | unspecified : s.spec = none → HasClusterIps s []
  | listed {spec : ServiceSpec} {ips : List String} : s.spec = some spec →
    spec.clusterIps = some ips → ips ≠ [] → HasClusterIps s ips
  | single {spec : ServiceSpec} {ip : String} : s.spec = some spec →
    spec.clusterIps = none ∨ spec.clusterIps = some [] → spec.clusterIp = some ip →
    HasClusterIps s [ip]
  | unassigned {spec : ServiceSpec} : s.spec = some spec →
    spec.clusterIps = none ∨ spec.clusterIps = some [] → spec.clusterIp = none →
    HasClusterIps s []

/-- The points at which load balancers take in the traffic of a service. -/
inductive HasIngress (s : Service) : List Ingress → Prop where
  | balanced {status : ServiceStatus} {balancer : LoadBalancer} {points : List Ingress} :
    s.status = some status → status.loadBalancer = some balancer →
    balancer.ingress = some points → HasIngress s points
  | unbalanced : (∀ status balancer, s.status = some status →
      status.loadBalancer = some balancer → balancer.ingress = none) → HasIngress s []

/-- The addresses of a service are its cluster IPs, then the IPs of its load balancers and then the
host names of these. -/
inductive Addresses (s : Service) : List String → Prop where
  | intro {ips inside outside names : List String} {points : List Ingress} :
    HasClusterIps s ips → Gathers OffersIp ips inside → HasIngress s points →
    Gathers (fun point host => point.ip = some host) points outside →
    Gathers (fun point host => point.hostname = some host) points names →
    Addresses s (inside ++ outside ++ names)

/-- The names of a service stand by search domains and then by how far they are spelled out; its
addresses come after them. -/
structure Lists (s : Service) (searchDomains hosts : List String) : Prop where
  names : ∀ {i j : Nat} {search parent : String}, (searches searchDomains)[i]? = some search →
    (parents (s.metadata.namespace_.getD ""))[j]? = some parent →
    hosts[4 * i + j]? = some (s.metadata.anyName ++ parent ++ search)
  addresses : Addresses s (hosts.drop (4 * (searchDomains.length + 1)))

section Rows

variable {α β : Type} {row : α → List β} {width : Nat}

theorem length_flatMap (wide : ∀ a, (row a).length = width) (as : List α) :
    (as.flatMap row).length = width * as.length := by
  induction as with
  | nil => rfl
  | cons a as ih =>
    rw [List.flatMap_cons, List.length_append, wide, ih, List.length_cons, Nat.mul_succ,
      Nat.add_comm]

theorem getElem?_flatMap (wide : ∀ a, (row a).length = width) {as : List α} {i j : Nat} {a : α}
    (outer : as[i]? = some a) (inside : j < width) :
    (as.flatMap row)[width * i + j]? = (row a)[j]? := by
  obtain ⟨before, after, rfl, rfl⟩ : ∃ before after, as = before ++ a :: after ∧
      i = before.length := by
    obtain ⟨short, rfl⟩ := List.getElem?_eq_some_iff.mp outer
    refine ⟨as.take i, as.drop (i + 1), ?_, (List.length_take_of_le (Nat.le_of_lt short)).symm⟩
    rw [← List.drop_eq_getElem_cons short, List.take_append_drop]
  have rows_before := length_flatMap wide before
  rw [List.flatMap_append, List.flatMap_cons, ← rows_before,
    List.getElem?_append_right (Nat.le_add_right _ _), Nat.add_sub_cancel_left,
    List.getElem?_append_left (by rwa [wide])]

end Rows

/-- The names of a service under one search domain. -/
def forms (service ns search : String) : List String :=
  (parents ns).map fun parent => service ++ parent ++ search

theorem candidateNames_eq (service ns : String) (searchDomains : List String) :
    candidateNames service ns searchDomains =
      (searches searchDomains).flatMap (forms service ns) :=
  rfl

theorem length_candidateNames (service ns : String) (searchDomains : List String) :
    (candidateNames service ns searchDomains).length = 4 * (searchDomains.length + 1) := by
  have wide (search : String) : (forms service ns search).length = 4 := rfl
  rw [candidateNames_eq, length_flatMap wide, searches, List.length_cons, List.length_map]

theorem gathers_filterMap {α : Type} {Offers : α → String → Prop} {f : α → Option String}
    (offers_iff : ∀ a host, Offers a host ↔ f a = some host) (as : List α) :
    Gathers Offers as (as.filterMap f) := by
  induction as with
  | nil => exact .nil
  | cons a as ih =>
    cases offered : f a with
    | none =>
      rw [List.filterMap_cons_none offered]
      apply Gathers.passed _ ih
      simp [offers_iff, offered]
    | some host =>
      rw [List.filterMap_cons_some offered]
      apply Gathers.offered _ ih
      simp [offers_iff, offered]

theorem gathers_filter (ips : List String) :
    Gathers OffersIp ips (ips.filter fun ip => !ip.isEmpty && ip != "None") := by
  rw [← List.filterMap_eq_filter]
  apply gathers_filterMap
  intro ip host
  rw [Option.guard_eq_some_iff]
  constructor
  · rintro ⟨rfl, given, assigned⟩
    simp [given, assigned]
  · rintro ⟨rfl, usable⟩
    simp only [Bool.and_eq_true, Bool.not_eq_true', bne_iff_ne, String.isEmpty_eq_false_iff]
      at usable
    exact ⟨rfl, usable.1, usable.2⟩

theorem gathers_clusterIps (s : Service) :
    ∃ ips, HasClusterIps s ips ∧ Gathers OffersIp ips ((s.spec.map clusterIps).getD []) := by
  cases specified : s.spec with
  | none => exact ⟨[], .unspecified specified, .nil⟩
  | some spec =>
    rw [Option.map_some, Option.getD_some, clusterIps]
    split
    · rename_i ip ips listed
      exact ⟨_, .listed specified listed (List.cons_ne_nil ip ips), gathers_filter _⟩
    · rename_i unlisted
      have unlisted : spec.clusterIps = none ∨ spec.clusterIps = some [] := by
        rcases listed : spec.clusterIps with _ | _ | ⟨ip, ips⟩
        · exact .inl rfl
        · exact .inr rfl
        · exact absurd listed (unlisted ip ips)
      cases has : spec.clusterIp with
      | none => exact ⟨_, .unassigned specified unlisted has, gathers_filter _⟩
      | some ip => exact ⟨_, .single specified unlisted has, gathers_filter _⟩

theorem hasIngress (s : Service) : HasIngress s ((s.status.map ingress).getD []) := by
  cases reported : s.status with
  | none => exact .unbalanced (by simp [reported])
  | some status =>
    rw [Option.map_some, Option.getD_some, ingress]
    cases balanced : status.loadBalancer with
    | none => exact .unbalanced (by grind)
    | some balancer =>
      rw [Option.bind_some]
      cases taken : balancer.ingress with
      | none => exact .unbalanced (by grind)
      | some points => exact .balanced reported balanced taken

theorem addresses_serviceHosts (s : Service) : Addresses s (serviceHosts s) := by
  obtain ⟨ips, has, inside⟩ := gathers_clusterIps s
  apply Addresses.intro has inside (hasIngress s)
  · exact gathers_filterMap (fun _ _ => Iff.rfl) _
  · exact gathers_filterMap (fun _ _ => Iff.rfl) _

theorem lists_candidates (s : Service) (searchDomains : List String) :
    Lists s searchDomains (candidates s searchDomains) where
  names {i j search parent} outer inner := by
    have wide (search : String) :
      (forms s.metadata.anyName (s.metadata.namespace_.getD "") search).length = 4 := rfl
    have inside : j < 4 := (List.getElem?_eq_some_iff.mp inner).1
    have named := getElem?_flatMap wide outer inside
    rw [forms, List.getElem?_map, inner, Option.map_some] at named
    have early := (List.getElem?_eq_some_iff.mp named).1
    rwa [candidates, candidateNames_eq, List.getElem?_append_left early]
  addresses := by
    rw [candidates, ← length_candidateNames s.metadata.anyName (s.metadata.namespace_.getD ""),
      List.drop_left]
    exact addresses_serviceHosts s

/-! ## The host that is found -/

/-- These trials are made, and what is reported is the candidate that the last of them reaches, the
first to be reached, or that none is. -/
structure Discovers (script : Script (Cloud Other)) (past : List (Cloud Other).Call) (s : Service)
    (searchDomains : List String) (port : Nat) (trials : List Trial) (r : Except Fault String) :
    Prop where
  in_turn : InTurn Trial.host (Trial.asks port) Trial.reaches (Trial.Goes script port) past
    (candidates s searchDomains) trials
  ok_iff : ∀ host, r = .ok host ↔ ∃ missed t later, trials = missed ++ [t] ∧ t.host = host ∧
    t.reaches = true ∧ (∀ u ∈ missed, u.reaches = false) ∧
    candidates s searchDomains = missed.map Trial.host ++ host :: later
  error_iff : ∀ fault, r = .error fault ↔ (∀ t ∈ trials, t.reaches = false) ∧
    trials.map Trial.host = candidates s searchDomains ∧
    fault = .notFound (Kind.service.title (s.metadata.namespace_.getD "") s.metadata.anyName)
      ("no address reachable on port " ++ toString port)

section Discovers

variable {script : Script (Cloud Other)} {past : List (Cloud Other).Call} {s : Service}
  {searchDomains : List String} {port : Nat} {trials : List Trial}

theorem report_map_eq_ok_iff {found : Option Trial} {host : String} :
    report s port (found.map Trial.host) = .ok host ↔ ∃ t, found = some t ∧ t.host = host := by
  cases found with
  | none => exact ⟨nofun, nofun⟩
  | some t =>
    rw [Option.map_some, report, Except.ok.injEq]
    constructor
    · exact fun same => ⟨t, rfl, same⟩
    · rintro ⟨u, found, same⟩
      rwa [Option.some.inj found]

theorem discovers_of_inTurn
    (h : InTurn Trial.host (Trial.asks port) Trial.reaches (Trial.Goes script port) past
      (candidates s searchDomains) trials) :
    Discovers script past s searchDomains port trials
      (report s port ((trials.find? Trial.reaches).map Trial.host)) where
  in_turn := h
  ok_iff host := by
    rw [report_map_eq_ok_iff]
    constructor
    · rintro ⟨t, found, rfl⟩
      obtain ⟨missed, rfl, failed⟩ := h.eq_snoc_of_find? found
      obtain ⟨later, whole⟩ := h.in_order
      refine ⟨missed, t, later, rfl, rfl, List.find?_some found, failed, ?_⟩
      rw [← whole, List.map_append, List.map_singleton, List.append_assoc, List.singleton_append]
    · rintro ⟨missed, t, later, rfl, rfl, reached, failed, -⟩
      refine ⟨t, List.find?_eq_some_iff_append.mpr ⟨reached, missed, [], rfl, ?_⟩, rfl⟩
      intro u member
      rw [failed u member, Bool.not_false]
  error_iff fault := by
    constructor
    · intro reported
      cases found : trials.find? Trial.reaches with
      | none =>
        rw [found] at reported
        obtain rfl := Except.error.inj reported
        have failed : ∀ t ∈ trials, t.reaches = false := fun t member =>
          Bool.eq_false_iff.mpr (List.find?_eq_none.mp found t member)
        exact ⟨failed, h.to_the_end failed, rfl⟩
      | some t =>
        rw [found] at reported
        cases reported
    · rintro ⟨failed, -, rfl⟩
      have none_found : trials.find? Trial.reaches = none :=
        List.find?_eq_none.mpr fun t member => Bool.eq_false_iff.mp (failed t member)
      rw [none_found]
      rfl

end Discovers

/-- A search reports the first candidate that resolves to an address which accepts a connection, and
asks for nothing after it. Guards around it only keep it from asking all that it would. -/
theorem findHost_discovers {script : Script (Cloud Other)} (responds : Responds script)
    (past : List (Cloud Other).Call) (s : Service) (searchDomains : List String) (port : Nat) :
    Lists s searchDomains (candidates s searchDomains) ∧
    ∃ trials r, Discovers script past s searchDomains port trials r ∧
      (Steady script → ∀ host, r = .ok host ↔ ∃ before later,
        candidates s searchDomains = before ++ host :: later ∧ IsReached script port host ∧
          ∀ other ∈ before, ¬IsReached script port other) ∧
      ∀ w : World (Cloud Other), w.asked id = past →
        (∃ w', (findHost s searchDomains port).run script [] w = .done r w') ∧
        ∀ guards, ((findHost s searchDomains port).run script guards w).Meets id guards
          (past ++ trials.flatMap (Trial.asks port)) (some r) := by
  obtain ⟨trials, in_turn, comes⟩ := findHost_comesTo responds past s searchDomains port
  refine ⟨lists_candidates s searchDomains, trials, _, discovers_of_inTurn in_turn, ?steady, ?runs⟩
  case steady =>
    intro steady host
    rw [report_map_eq_ok_iff, in_turn.find?_iff]
    intro t member
    obtain ⟨past', goes⟩ := in_turn.goes.exists_past member
    exact goes.reaches_iff steady
  case runs =>
    intro w same
    exact ⟨comes.done same, fun guards => comes.meets guards same⟩

def shut : Address := ⟨.v4 ⟨#[10, 0, 0, 3], rfl⟩, 443⟩

def ajar : Address := ⟨.v4 ⟨#[10, 0, 0, 2], rfl⟩, 443⟩

/-- Knows one of the names and two of the addresses of a service, and one point that accepts
connections. -/
def naming : Script (Cloud .silent) where
  root := 0
  answer
    | _, .resolve host _ =>
      .immediate <|
        if host = "db.prod" ∨ host = "10.0.0.3" then .ok [shut]
        else if host = "203.0.113.9" then .ok [shut, ajar]
        else .error (.notFound host "unknown")
    | _, .probe address => .immediate (.ok (address == ajar))
    | _, c => .immediate (.ok (Cloud.grant c))

/-- Inside its cluster, the database has one IP that can be tried. Its load balancers have an IP at
one point and a host name at each of two. -/
def database : Service :=
  ⟨{ Metadata.empty with name := some "db", namespace_ := some "prod" },
    some { ServiceSpec.empty with
      clusterIp := some "10.0.0.1", clusterIps := some ["None", "10.0.0.3", ""] },
    some ⟨some ⟨some [⟨none, some "db.example.net", []⟩,
      ⟨some "203.0.113.9", some "late.example.net", []⟩]⟩, []⟩⟩

/-- What is asked to reach the database. -/
def inquiry : List (Cloud .silent).Call :=
  [CloudCall.resolve "db" 443, CloudCall.resolve "db.prod" 443, CloudCall.probe shut,
    CloudCall.resolve "db.prod.svc" 443, CloudCall.resolve "db.prod.svc.cluster.local" 443,
    CloudCall.resolve "db.example.com" 443, CloudCall.resolve "db.prod.example.com" 443,
    CloudCall.resolve "db.prod.svc.example.com" 443,
    CloudCall.resolve "db.prod.svc.cluster.local.example.com" 443,
    CloudCall.resolve "10.0.0.3" 443, CloudCall.probe shut,
    CloudCall.resolve "203.0.113.9" 443, CloudCall.probe shut, CloudCall.probe ajar]

/-- The database is reached at a load balancer, and no host name of one is tried. -/
theorem findHost_discovers_database : Responds naming ∧
    Lists database [".example.com"] (candidates database [".example.com"]) ∧
    Addresses database ["10.0.0.3", "203.0.113.9", "db.example.net", "late.example.net"] ∧
    ∃ trials, Discovers naming [] database [".example.com"] 443 trials (.ok "203.0.113.9") ∧
      trials.flatMap (Trial.asks 443) = inquiry := by
  have responds : Responds naming := by
    intro history c _
    cases c <;> rfl
  obtain ⟨lists, trials, r, discovers, -, runs⟩ :=
    findHost_discovers responds [] database [".example.com"] 443
  have meets := (runs .initial rfl).2 []
  have ran : ∃ v, (findHost database [".example.com"] 443).run naming [] .initial =
      .done (.ok "203.0.113.9") v ∧ v.asked id = inquiry := ⟨_, rfl, rfl⟩
  obtain ⟨v, ran, asked⟩ := ran
  rw [ran] at meets
  obtain ⟨comes, all⟩ := meets
  obtain rfl := Option.some.inj comes
  exact ⟨responds, lists, lists.addresses, trials, discovers, all.symm.trans asked⟩

end Reach

end Recovery
