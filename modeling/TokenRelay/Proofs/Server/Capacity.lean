/-
# Channels that cannot be made

Supplies which settings let sessions start. What happens to a server never changes how many items
its channels hold, so what its settings say decides about every start. The conditions on settings
exclude only the channel without room. The one that is too large is found when the first session is
started, and each such start leaves a record in the registry that belongs to no session.
-/

import TokenRelay.Proofs.Server.Run
import TokenRelay.Proofs.Settings.Accepted

namespace TokenRelay

/-- The relays of a server with the settings: sessions are started, or the calls for them are broken
off, and whatever else may happen happens. -/
inductive Settings.Serves (settings : Settings) : Relay → Prop
  | fresh (network : Network) : Serves settings (Server.ofSettings settings network).relay
  | launch {relay : Relay} (serves : Serves settings relay) (request : SessionRequest)
      (source : Script) : Serves settings (relay.launch request source).relay
  | move {relay : Relay} (serves : Serves settings relay) (move : Move)
      (kept : move.isStart = false) : Serves settings (relay.move move)

namespace Settings

variable {settings : Settings}

/-- Every channel is made for as many items as the settings say. -/
theorem Serves.capacity_eq {relay : Relay} (serves : settings.Serves relay) :
    relay.capacity = max settings.channelCapacity.toNat 1 := by
  induction serves with
  | fresh network => rfl
  | launch serves request source ih => rw [Relay.capacity_launch, ih]
  | move serves move kept ih => rw [Relay.capacity_move _ move kept, ih]

theorem Serves.play {relay : Relay} (serves : settings.Serves relay) {moves : List Move}
    (kept : ∀ move ∈ moves, move.isStart = false) : settings.Serves (relay.play moves) := by
  induction moves generalizing relay with
  | nil => exact serves
  | cons move moves ih =>
      exact ih (serves.move move (kept move List.mem_cons_self))
        fun later inside => kept later (List.mem_cons_of_mem _ inside)

theorem Serves.after {server : Server} (serves : settings.Serves server.relay)
    (happening : Happening) : settings.Serves (server.after happening).relay := by
  cases happening with
  | request ids request =>
      cases server.answered ids request with
      | apart same => exact same.symm ▸ serves
      | streamed session source accepts identifier launched =>
          have next := serves.launch session source
          rwa [launched] at next
      | brokenOff session source launched =>
          have next := serves.launch session source
          rwa [launched] at next
      | asked caller requestId identified cancelled =>
          exact cancelled.symm ▸ serves.move (.cancelStream requestId caller.userId) rfl
  | poll number => exact serves.move (.poll number) rfl
  | settle names =>
      have settled : (server.after (.settle names)).relay = _ :=
        (server.relay_settle names).trans server.relay.settle_eq_play
      rw [settled]
      refine serves.play fun move inside => ?_
      obtain ⟨number, -, rfl⟩ := List.mem_map.1 inside
      rfl
  | advance milliseconds => exact serves.move (.advance milliseconds) rfl
  | receive number => exact serves.move (.receive number) rfl
  | abandon number => exact serves.move (.abandon number) rfl
  | cancelAll => exact serves.move .cancelAll rfl

/-- So everything that a server with the settings comes to is among these relays. -/
theorem serves_run (network : Network) (happenings : List Happening) :
    settings.Serves ((Server.ofSettings settings network).run happenings).relay := by
  have kept (server : Server) (serves : settings.Serves server.relay) :
      settings.Serves (server.run happenings).relay := by
    induction happenings generalizing server with
    | nil => exact serves
    | cons happening rest ih => exact ih _ (serves.after happening)
  exact kept _ (.fresh network)

/-- Accepted settings let sessions start, at every moment and for every request, exactly if a
channel of the capacity that they choose can be made. A session that is started gets a channel of
that capacity. A call that is broken off leaves the record of a session that does not exist. -/
theorem launch_opens_iff (accepted : settings.Accepted) {relay : Relay}
    (serves : settings.Serves relay) (request : SessionRequest) (source : Script) :
    ((∃ after, relay.launch request source = .opened after) ↔
      settings.channelCapacity.toNat ≤ Channel.limit) ∧
    (∀ after, relay.launch request source = .opened after →
      after = relay.add request source { capacity := settings.channelCapacity.toNat } ∧
        ∃ session, after.sessions = relay.sessions ++ [session] ∧
          session.channel.capacity = settings.channelCapacity.toNat) ∧
    ∀ left, relay.launch request source = .brokenOff left →
      left.sessions = relay.sessions ∧
        left.registry.lookup request.requestId =
          some ⟨request.owner, relay.registry.nextHandle⟩ := by
  have capacity_eq := serves.capacity_eq
  rw [Nat.max_eq_left accepted.channelCapacity_pos] at capacity_eq
  rw [← capacity_eq]
  refine ⟨?_, fun after opened => ?_, fun left broken => ?_⟩
  · have holds : 1 ≤ relay.capacity := capacity_eq ▸ accepted.channelCapacity_pos
    constructor
    · rintro ⟨after, opened⟩
      refine Nat.le_of_not_lt fun exceeds => ?_
      rw [relay.launch_eq_brokenOff request source exceeds] at opened
      cases opened
    · exact fun fits => ⟨_, relay.launch_eq_opened request source holds fits⟩
  · obtain rfl := Relay.eq_add_of_opened opened
    exact ⟨rfl, _, relay.sessions_add request source, rfl⟩
  · obtain rfl := Relay.eq_enter_of_brokenOff broken
    exact ⟨rfl, relay.lookup_enter request⟩

/-- Settings whose only choice is a channel for one more item than there can be. -/
def oversized : Settings := { channelCapacity := 2305843009213693952 }

/-- A turn of Alice. -/
def aliceTurn : SessionRequest :=
  { requestId := "r1", conversationId := "c1", owner := "alice", query := "hello" }

/-- They are accepted from a document, and the first session cannot be started with them. -/
theorem oversized_channel_strands_record :
    ofToml "[streaming]\nchannel_capacity = 2305843009213693952\n" = .ok oversized ∧
      ∃ left,
        (Server.ofSettings oversized fun _ => none).relay.launch aliceTurn { steps := [] } =
          .brokenOff left ∧
        left.registry.lookup "r1" = some ⟨"alice", 0⟩ ∧ left.sessions = [] := by
  refine ⟨?_, _, rfl, ?_, rfl⟩
  · exact eq_ok_of_toOption (by decide +kernel)
  · rfl

/-- With the usual settings it can. -/
theorem usual_settings_open :
    ofToml "" = .ok {} ∧
      ∃ after,
        (Server.ofSettings {} fun _ => none).relay.launch aliceTurn { steps := [] } =
          .opened after := by
  have read : ofToml "" = .ok {} := eq_ok_of_toOption (by decide +kernel)
  obtain ⟨opens, -⟩ :=
    launch_opens_iff (.inl ⟨"", read⟩) (.fresh fun _ => none) aliceTurn { steps := [] }
  exact ⟨read, opens.2 (by decide)⟩

end Settings

end TokenRelay
