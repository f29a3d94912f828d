import Recovery.Document.Request
import Recovery.Proofs.Rpc.Codec
import Recovery.Proofs.Text.Utf8
import Recovery.Proofs.Timed.Answer
import Recovery.Proofs.Timed.Trail
import Recovery.Rpc.Client
/-!
# What a client sends

A client is used any number of times, for requests and to be closed, by callers who may give a
request up. The requests before the first closing are handed to the connection, each once and in
order, and end as the server answers them; all later ones are refused by the client itself.
-/
set_option autoImplicit false

namespace Recovery

theorem Task.within_pure {I : Interface} {α : Type} (g : Guard) (a : α) :
    Task.within g (pure a : Task I α) = pure (.ok a) := rfl

namespace Rpc

/-! ## Statuses -/

namespace Status

/-- How a status looks to a client. A message without percent signs is seen as it is, another one
as the text whose bytes it spells. If it spells those of no text, the code is lost as well. -/
structure Shows (s seen : Status) : Prop where
  plain : '%' ∉ s.message.toList → seen = s
  spelled : ∀ text, Text.Percent.decode (Text.bytes s.message) = Text.bytes text →
    seen = ⟨s.code, text⟩
  garbled : (∀ text, Text.Percent.decode (Text.bytes s.message) ≠ Text.bytes text) →
    seen.codeName = "Unknown" ∧ ∃ index gap,
      Text.Utf8.decode (Text.Percent.decode (Text.bytes s.message)) = .error (index, gap) ∧
      seen.message =
        "Error deserializing status message header: " ++ Text.Utf8.gapMessage index gap

theorem shows_received (s : Status) : s.Shows s.received := by
  have bytes : Text.Percent.bytes s.message.toList = Text.bytes s.message :=
    (Text.Utf8.bytes_eq_flatMap _).symm
  have spelled (text : String) (h : Text.Percent.decode (Text.bytes s.message) = Text.bytes text) :
      s.received = ⟨s.code, text⟩ := by
    rw [received, bytes, Text.Utf8.decode_eq_ok_iff.mpr h]
  refine ⟨fun plain => ?_, spelled, fun garbled => ?_⟩
  · exact spelled s.message (bytes ▸ Text.Percent.decode_bytes plain)
  · rw [received, bytes]
    split
    · rename_i text read
      exact absurd (Text.Utf8.decode_eq_ok_iff.mp read) (garbled text)
    · rename_i index gap read
      exact ⟨rfl, index, gap, read, rfl⟩

end Status

/-! ## What a server understands -/

/-- The path tells the server what to read the body as. -/
def Sent.request? (s : Sent) : Option Request :=
  (Method.all.find? (·.path == s.path)).bind (Request.decode? · s.body)

theorem Request.request?_sent (r : Request) (inRange : r.InRange)
    (fits : r.encode.length < 2 ^ 64) : r.sent.request? = some r := by
  have found (m : Method) : Method.all.find? (·.path == m.path) = some m := by
    cases m <;> decide
  rw [Sent.request?, sent, found]
  exact decode?_encode r inRange fits

/-! ## Uses of a client -/

inductive Use where
  | request (r : Request)
  | close
deriving DecidableEq

def Use.request? : Use → Option Request
  | .request r => some r
  | .close => none

/-- The requests before the first closing. -/
def opened (uses : List Use) : List Request := (uses.takeWhile (· ≠ .close)).filterMap Use.request?

theorem opened_request (r : Request) (uses : List Use) :
    opened (.request r :: uses) = r :: opened uses := rfl

theorem opened_close (uses : List Use) : opened (.close :: uses) = [] := rfl

/-- How a use ends for the caller: with a result, unless it is given up. -/
abbrev Ending := Except Interrupt (Except Fault Unit)

namespace Client

def use : Use → Recorded Client Connection Unit
  | .request r => request r
  | .close => close

/-- One use after the other, each within a guard of its own. What is given up leaves the client as
it was. -/
def useAll (client : Client) : List (Guard × Use) → Task Connection (List Ending)
  | [] => return []
  | (guard, u) :: later => do
    let ended ← Task.within guard ((use u).runFrom client)
    let after := match ended with
      | .ok (_, client) => client
      | .error _ => client
    let endings ← useAll after later
    return ended.map Prod.fst :: endings

/-! ### One use -/

/-- What the client reports of what its connection has made of a request. -/
def told (r : Request) : Except Fault Status → Except Fault Unit
  | .ok status => if status.isOk then .ok () else .error (status.fault r.method.name)
  | .error reason => .error ((Status.unready reason.message).report r.method.name)

theorem runFrom_request (r : Request) :
    (use (.request r)).runFrom connected =
      (fun result => (told r result, connected)) <$> @Task.call Connection r.sent := by
  show (request r).runFrom connected = _
  unfold request
  rw [Recorded.runFrom_get_bind]
  dsimp only
  have isOpen : ¬connected.closed = true := Bool.false_ne_true
  rw [if_neg isOpen, Recorded.runFrom_ofSaga_bind]
  show (Except.mapError _ <$> @Task.call Connection r.sent) >>= _ = _
  rw [bind_map_left, map_eq_pure_bind]
  congr
  funext result
  cases result with
  | error reason => rfl
  | ok status =>
    show Recorded.runFrom (if _ then _ else _) _ = pure (if _ then _ else _, _)
    split <;> rfl

theorem runFrom_close (client : Client) :
    (use .close).runFrom client = pure (.ok (), ⟨true⟩) := rfl

/-- How a closed client ends a use. -/
def refusal : Use → Except Fault Unit
  | .request r => .error (.rpc r.method.name "client is closed")
  | .close => .ok ()

theorem runFrom_closed (u : Use) : (use u).runFrom ⟨true⟩ = pure (refusal u, ⟨true⟩) := by
  cases u <;> rfl

theorem useAll_closed (uses : List (Guard × Use)) :
    useAll ⟨true⟩ uses = pure (uses.map fun p => .ok (refusal p.2)) := by
  induction uses with
  | nil => rfl
  | cons p later ih =>
    obtain ⟨guard, u⟩ := p
    rw [useAll, runFrom_closed, Task.within_pure, pure_bind]
    dsimp only
    rw [ih, pure_bind]
    rfl

theorem hears_use (u : Use) (client : Client) : ((use u).runFrom client).Hears := by
  obtain ⟨closed⟩ := client
  cases closed with
  | true =>
    rw [runFrom_closed]
    exact Task.hears_pure _
  | false =>
    cases u with
    | close => exact Task.hears_pure _
    | request r =>
      have asks := runFrom_request r
      rw [connected] at asks
      rw [asks]
      exact (Task.hears_call _).map _

/-- What a request within a guard leaves behind, and how it ends if it does. -/
inductive Asks (r : Request) :
    List (Attempt Connection) → Option (Except Interrupt (Except Fault Unit × Client)) → Prop where
  | through (result : Except Fault Status) :
    Asks r [⟨r.sent, some result⟩] (some (.ok (told r result, connected)))
  | givenUp (why : Interrupt) : Asks r [⟨r.sent, none⟩] (some (.error why))
  | cut : Asks r [⟨r.sent, none⟩] none

theorem leaves_request (guard : Guard) (r : Request) :
    (Task.within guard ((use (.request r)).runFrom connected)).Leaves fun _ => Asks r := by
  have inside : ((use (.request r)).runFrom connected).Leaves fun _ attempts ending =>
      ∃ result, attempts = [⟨r.sent, result⟩] ∧
        ending = result.map fun result => (told r result, connected) := by
    rw [runFrom_request]
    exact (Task.leaves_call _).map _ fun _ _ result sole => ⟨result, sole, rfl⟩
  refine inside.within guard ?_ ?_ ?_
  · rintro _ _ a ⟨_ | result, rfl, ended⟩
    · cases ended
    · cases ended
      exact .through result
  · rintro _ _ why ⟨_ | result, rfl, ended⟩ -
    · exact .givenUp why
    · cases ended
  · rintro _ _ ⟨_ | result, rfl, ended⟩
    · exact .cut
    · cases ended

end Client

/-! ## The run of the uses -/

/-- How a request of an open client ends, given what its connection has made of it: nothing if the
request was given up before. -/
inductive Request.Ends (r : Request) : Option (Except Fault Status) → Ending → Prop where
  | accepted {status : Status} : status.code = 0 → Ends r (some (.ok status)) (.ok (.ok ()))
  | refused {status seen : Status} : status.code ≠ 0 → status.Shows seen →
    Ends r (some (.ok status))
      (.ok (.error (.rpc r.method.name (seen.codeName ++ ": " ++ seen.message))))
  | unready {reason : Fault} :
    Ends r (some (.error reason))
      (.ok (.error (.rpc r.method.name
        ("Unavailable: kubedr.worker.v1.WorkerService not ready: " ++ reason.message))))
  | givenUp {why : Interrupt} : Ends r none (.error why)

theorem Request.ends_told (r : Request) (result : Except Fault Status) :
    r.Ends (some result) (.ok (Client.told r result)) := by
  cases result with
  | error reason => exact .unready
  | ok status =>
    show r.Ends _ (.ok (if _ then _ else _))
    split
    · rename_i accepted
      exact .accepted (beq_iff_eq.mp accepted)
    · rename_i refused
      exact .refused (fun zero => refused (beq_iff_eq.mpr zero)) status.shows_received

/-- The uses, the calls of the connection and the endings, in step until the client is closed. -/
inductive Session : List Use → List (Attempt Connection) → List Ending → Prop where
  | unused : Session [] [] []
  | request {r : Request} {result : Option (Except Fault Status)} {ending : Ending}
      {uses : List Use} {attempts : List (Attempt Connection)} {endings : List Ending} :
    r.Ends result ending → Session uses attempts endings →
    Session (.request r :: uses) (⟨r.sent, result⟩ :: attempts) (ending :: endings)
  | close (uses : List Use) :
    Session (.close :: uses) [] (.ok (.ok ()) :: uses.map fun u => .ok (Client.refusal u))

/-- The same as far as a request of which nothing comes. -/
inductive Stalls : List Use → List (Attempt Connection) → Prop where
  | here (r : Request) (uses : List Use) : Stalls (.request r :: uses) [⟨r.sent, none⟩]
  | later {r : Request} {result : Option (Except Fault Status)} {uses : List Use}
      {attempts : List (Attempt Connection)} :
    Stalls uses attempts → Stalls (.request r :: uses) (⟨r.sent, result⟩ :: attempts)

def Trail (uses : List Use) (attempts : List (Attempt Connection)) : Option (List Ending) → Prop
  | some endings => Session uses attempts endings
  | none => Stalls uses attempts

namespace Client

theorem leaves_useAll (uses : List (Guard × Use)) :
    (connected.useAll uses).Leaves fun _ => Trail (uses.map Prod.snd) := by
  induction uses with
  | nil => exact Task.leaves_pure fun _ => .unused
  | cons p later ih =>
    obtain ⟨guard, u⟩ := p
    rw [useAll]
    cases u with
    | close =>
      rw [runFrom_close, Task.within_pure, pure_bind]
      dsimp only
      rw [useAll_closed, pure_bind]
      refine Task.leaves_pure fun _ => ?_
      have refused := Session.close (later.map Prod.snd)
      rwa [List.map_map] at refused
    | request r =>
      -- Whatever comes of the request, the client is still open for the uses after it.
      have goesOn {result : Option (Except Fault Status)} {ending : Ending}
          (ends : r.Ends result ending) :
          (connected.useAll later >>= fun endings => pure (ending :: endings)).Leaves
            fun _ more endings => Trail (.request r :: later.map Prod.snd)
              ([⟨r.sent, result⟩] ++ more) endings := by
        refine ih.bind (fun _ endings more session => ?_) fun _ more stalls => .later stalls
        refine Task.leaves_pure fun _ => ?_
        rw [List.append_nil]
        exact .request ends session
      refine (leaves_request guard r).bind (fun _ ended before asked => ?_) ?_
      · cases asked with
        | through result => exact goesOn (r.ends_told result)
        | givenUp why => exact goesOn .givenUp
      · rintro _ before ⟨⟩
        exact .here r _

theorem hears_useAll (client : Client) (uses : List (Guard × Use)) :
    (client.useAll uses).Hears := by
  induction uses generalizing client with
  | nil => exact Task.hears_pure _
  | cons p later ih =>
    obtain ⟨guard, u⟩ := p
    exact ((hears_use u client).within guard).bind fun _ =>
      (ih _).bind fun _ => Task.hears_pure _

end Client

/-! ## What the uses come to -/

/-- Just these requests are handed to the connection, each once and in order, under the paths of
their methods; a server takes them for what they are. -/
structure Sends (requests : List Request) (attempts : List (Attempt Connection)) : Prop where
  sent : attempts.map (·.call) = requests.map Request.sent
  paths : attempts.map (·.call.path) =
    requests.map fun r => "/kubedr.worker.v1.WorkerService/" ++ r.method.name
  understood : (∀ r ∈ requests, r.InRange ∧ r.encode.length < 2 ^ 64) →
    attempts.map (·.call.request?) = requests.map some

theorem sends_of_sent {requests : List Request} {attempts : List (Attempt Connection)}
    (sent : attempts.map (·.call) = requests.map Request.sent) : Sends requests attempts := by
  refine ⟨sent, ?_, fun proper => ?_⟩
  · have mapped := congrArg (List.map Sent.path) sent
    rw [List.map_map, List.map_map] at mapped
    refine mapped.trans (List.map_congr_left fun r _ => ?_)
    rfl
  · have mapped := congrArg (List.map Sent.request?) sent
    rw [List.map_map, List.map_map] at mapped
    refine mapped.trans (List.map_congr_left fun r member => ?_)
    exact r.request?_sent (proper r member).1 (proper r member).2

/-- What is promised of a client to which all these uses have been made. -/
structure Served (uses : List Use) (attempts : List (Attempt Connection)) (endings : List Ending) :
    Prop where
  sends : Sends (opened uses) attempts
  length_endings : endings.length = uses.length
  earlier : ∀ (i : Nat) (r : Request), uses[i]? = some (.request r) → .close ∉ uses.take i →
    ∃ result ending, attempts[i]? = some ⟨r.sent, result⟩ ∧ endings[i]? = some ending ∧
      r.Ends result ending
  later : ∀ (i : Nat) (r : Request), uses[i]? = some (.request r) → .close ∈ uses.take i →
    endings[i]? = some (.ok (.error (.rpc r.method.name "client is closed")))
  closing : ∀ i : Nat, uses[i]? = some .close → endings[i]? = some (.ok (.ok ()))

theorem Served.request {r : Request} {result : Option (Except Fault Status)} {ending : Ending}
    {uses : List Use} {attempts : List (Attempt Connection)} {endings : List Ending}
    (ends : r.Ends result ending) (h : Served uses attempts endings) :
    Served (.request r :: uses) (⟨r.sent, result⟩ :: attempts) (ending :: endings) where
  sends := by
    rw [opened_request]
    exact sends_of_sent (congrArg (r.sent :: ·) h.sends.sent)
  length_endings := congrArg (· + 1) h.length_endings
  earlier i r' use unclosed := by
    cases i with
    | zero =>
      cases use
      exact ⟨result, ending, rfl, rfl, ends⟩
    | succ i => exact h.earlier i r' use fun closed => unclosed (List.mem_cons_of_mem _ closed)
  later i r' use closed := by
    cases i with
    | zero => cases closed
    | succ i => exact h.later i r' use ((List.mem_cons.mp closed).resolve_left nofun)
  closing i use := by
    cases i with
    | zero => cases use
    | succ i => exact h.closing i use

theorem served_close (uses : List Use) :
    Served (.close :: uses) [] (.ok (.ok ()) :: uses.map fun u => .ok (Client.refusal u)) where
  sends := by
    rw [opened_close]
    exact sends_of_sent rfl
  length_endings := congrArg (· + 1) (List.length_map _)
  earlier i r use unclosed := by
    cases i with
    | zero => cases use
    | succ i => exact absurd List.mem_cons_self unclosed
  later i r use _ := by
    cases i with
    | zero => cases use
    | succ i =>
      rw [List.getElem?_cons_succ] at use ⊢
      rw [List.getElem?_map, use]
      rfl
  closing i use := by
    cases i with
    | zero => rfl
    | succ i =>
      rw [List.getElem?_cons_succ] at use ⊢
      rw [List.getElem?_map, use]
      rfl

theorem Session.served {uses : List Use} {attempts : List (Attempt Connection)}
    {endings : List Ending} (h : Session uses attempts endings) :
    Served uses attempts endings := by
  induction h with
  | unused => exact ⟨sends_of_sent rfl, rfl, nofun, nofun, nofun⟩
  | request ends _ ih => exact ih.request ends
  | close uses => exact served_close uses

/-- What is promised of a client that is left in one of these uses: it is a request before the first
closing, and nothing has come of it. -/
structure Stalled (uses : List Use) (attempts : List (Attempt Connection)) : Prop where
  sends : ∃ before r later, uses = before ++ .request r :: later ∧ .close ∉ before ∧
    Sends (opened before ++ [r]) attempts
  unanswered : ∃ before c, attempts = before ++ [⟨c, none⟩]

theorem Stalls.stalled {uses : List Use} {attempts : List (Attempt Connection)}
    (h : Stalls uses attempts) : Stalled uses attempts := by
  induction h with
  | here r uses => exact ⟨⟨[], r, uses, rfl, nofun, sends_of_sent rfl⟩, [], r.sent, rfl⟩
  | @later r result uses attempts _ ih =>
    obtain ⟨⟨before, r', later, rfl, unclosed, sends⟩, first, c, rfl⟩ := ih
    refine ⟨⟨.request r :: before, r', later, rfl, ?_, ?_⟩, ⟨r.sent, result⟩ :: first, c, rfl⟩
    · exact fun closed => unclosed ((List.mem_cons.mp closed).resolve_left nofun)
    · rw [opened_request]
      exact sends_of_sent (congrArg (r.sent :: ·) sends.sent)

namespace Client

/-- The requests that are made before a client is closed are handed to its connection and end as the
server answers them. After that the client refuses requests by itself. Closing always succeeds. -/
theorem sends_until_closed (uses : List (Guard × Use)) (script : Script Connection)
    (guards : List Guard) (w : World Connection) :
    ∃ attempts, (connected.useAll uses script guards w).Hears script w attempts ∧
      match connected.useAll uses script guards w with
      | .done endings _ => Served (uses.map Prod.snd) attempts endings
      | .interrupted outside why v => Stalled (uses.map Prod.snd) attempts ∧
        Guard.Interrupts v.clock why guards outside
      | .endless _ => Stalled (uses.map Prod.snd) attempts := by
  obtain ⟨attempts, hears⟩ := hears_useAll connected uses script guards w
  refine ⟨attempts, hears, ?_⟩
  have leaves := leaves_useAll uses
  have makes := hears.makes
  cases ended : connected.useAll uses script guards w with
  | done endings v =>
    rw [ended] at makes
    obtain ⟨others, makes', session⟩ := leaves.done ended
    obtain rfl := makes.unique makes'
    exact session.served
  | interrupted outside why v =>
    rw [ended] at makes
    obtain ⟨others, makes', stalls, guarded⟩ := leaves.cut ended
    obtain rfl := makes.unique makes'
    exact ⟨stalls.stalled, guarded⟩
  | endless v =>
    rw [ended] at makes
    obtain ⟨others, makes', stalls⟩ := leaves.stays ended
    obtain rfl := makes.unique makes'
    exact stalls.stalled

/-- A server that accepts the first request, leaves the second one without an answer and refuses all
others. -/
def moody : Script Connection where
  root := 0
  answer history _ :=
    match history.length with
    | 0 => .immediate (.ok ⟨0, ""⟩)
    | 1 => ⟨false, true, 0, .ok ⟨0, ""⟩⟩
    | _ => .immediate (.ok ⟨5, "no such database"⟩)

/-- A copy is given up after a while; the client goes on until it is closed. -/
theorem sends_until_closed_of_moody :
    let dump : Request := .dumpPostgres ⟨none, "/dr"⟩
    let copy : Request := .syncFiles ⟨"/src/a", "/dr/a", true⟩
    let restore : Request := .restorePostgres ⟨none, "/dr", false⟩
    let uses := [(⟨[], none⟩, .request dump), (⟨[], some 50⟩, .request copy),
      (⟨[], none⟩, .request restore), (⟨[], none⟩, .close), (⟨[], none⟩, .request copy),
      (⟨[], none⟩, .close)]
    ∃ attempts v, connected.useAll uses moody [] ⟨.start, []⟩ = .done
        [.ok (.ok ()), .error .expired,
          .ok (.error (.rpc "RestorePostgres" "NotFound: no such database")), .ok (.ok ()),
          .ok (.error (.rpc "SyncFiles" "client is closed")), .ok (.ok ())] v ∧
      World.Makes moody ⟨.start, []⟩ attempts v ∧
      attempts.map (·.call.request?) = [some dump, some copy, some restore] := by
  intro dump copy restore uses
  have plain : (⟨5, "no such database"⟩ : Status).received = ⟨5, "no such database"⟩ :=
    (Status.shows_received _).plain (by decide)
  have refused : (⟨5, "no such database"⟩ : Status).fault "RestorePostgres" =
      .rpc "RestorePostgres" "NotFound: no such database" := by
    rw [Status.fault, plain]
    rfl
  have run : ∃ v, connected.useAll uses moody [] ⟨.start, []⟩ = .done
      [.ok (.ok ()), .error .expired,
        .ok (.error ((⟨5, "no such database"⟩ : Status).fault "RestorePostgres")), .ok (.ok ()),
        .ok (.error (.rpc "SyncFiles" "client is closed")), .ok (.ok ())] v := ⟨_, rfl⟩
  obtain ⟨v, run⟩ := run
  rw [refused] at run
  obtain ⟨attempts, hears, served⟩ := sends_until_closed uses moody [] ⟨.start, []⟩
  have makes := hears.makes
  rw [run] at served makes
  refine ⟨attempts, v, run, makes, served.sends.understood ?_⟩
  have opens : opened (uses.map Prod.snd) = [dump, copy, restore] := rfl
  rw [opens]
  simp only [List.forall_mem_cons]
  refine ⟨⟨?_, by decide +kernel⟩, ⟨trivial, by decide +kernel⟩, ⟨?_, by decide +kernel⟩, nofun⟩
  · exact nofun
  · exact nofun

/-- A message that spells no text hides the code that the server has answered with. -/
theorem garbled_message_hides_status :
    let refused : Status := ⟨3, "%ff"⟩
    let copy : Request := .syncFiles ⟨"", "", false⟩
    ∃ ending v, connected.useAll [(⟨[], none⟩, .request copy)]
        ⟨0, fun _ _ => .immediate (.ok refused)⟩ [] ⟨.start, []⟩ = .done [ending] v ∧
      refused.codeName = "InvalidArgument" ∧
      ending ≠
        .ok (.error (.rpc copy.method.name (refused.codeName ++ ": " ++ refused.message))) := by
  intro refused copy
  have seen : refused.received = ⟨2, "Error deserializing status message header: invalid utf-8 " ++
      "sequence of 1 bytes from index 0"⟩ := by decide +kernel
  refine ⟨.ok (.error (refused.fault copy.method.name)), _, rfl, rfl, fun same => ?_⟩
  have texts := (Fault.rpc.inj (Except.error.inj (Except.ok.inj same))).2
  rw [seen] at texts
  revert texts
  decide +kernel

end Client

end Rpc

end Recovery
