import YoAuthorize.Protocol.HonestRun

/-!
# The secure channel

One client, one server and an adversary that owns the wire.  Under an ideal
AEAD and an HKDF whose two key labels give different keys, what one side
accepts is always a prefix of what the other side sealed, once both adopted the
keys of one session (`secureChannel`).
-/

namespace YoAuthorize.Protocol

open Octets Crypto FlatBuffer Schema

/-- The two key labels of a session never derive the same key. -/
def DistinctKeyLabels (ssl : OpenSsl) : Prop :=
  ∀ secret salt clientToService serviceToClient,
    hkdfSha256 ssl secret salt c2sKeyLabel kKeySize = .ok clientToService →
    hkdfSha256 ssl secret salt s2cKeyLabel kKeySize = .ok serviceToClient →
    clientToService ≠ serviceToClient

/-- What each call may assume of its library. -/
structure SecureLibrary (world : World Unit Unit) (ssl : OpenSsl) : Prop where
  ideal : IdealAead ssl world.sealCalls
  labels : DistinctKeyLabels ssl

/-- The client's keys differ between the directions. -/
def ClientRun.Directed (run : ClientRun) : Prop :=
  ∀ keys, run.endpoint.keys = some keys → keys.write.key ≠ keys.read.key

theorem exchangeKeys_directed {ssl : OpenSsl} (labels : DistinctKeyLabels ssl)
    {privateKey peerPublicKey : Key} {transcriptHash : Sha256Digest} {keys : SessionKeys}
    (exchanged : exchangeKeys ssl privateKey peerPublicKey transcriptHash = .ok keys) :
    keys.clientToService.key ≠ keys.serviceToClient.key := by
  unfold exchangeKeys deriveSessionKeys at exchanged
  split at exchanged
  · cases exchanged
  split at exchanged
  · rename_i c2sKey s2cKey _ _ c2s s2c _ _
    cases exchanged
    exact labels _ _ _ _ c2s s2c
  · cases exchanged

theorem ClientRun.directed_of_step {fb : Binding Envelope} {ssl : OpenSsl} {run next : ClientRun}
    {made : List SealCall} (labels : DistinctKeyLabels ssl) (directed : run.Directed)
    (step : ClientRun.Step fb ssl run next made) : next.Directed := by
  cases step.effect with
  | failed | unchanged | started | sealed | opened => exact directed
  | helloAccepted accept encode sealed =>
      obtain ⟨-, -, accepts⟩ := ClientHandshake.accepts_of_accept accept
      intro keys keyed
      cases keyed
      exact exchangeKeys_directed labels accepts.exchanged

/-- The invariant of the channel. -/
structure World.Channel (world : World Unit Unit) : Prop where
  recorded : world.Recorded
  directed : (world.clients ()).Directed

theorem World.channel_of_fresh {world : World Unit Unit} (fresh : world.Fresh) :
    world.Channel where
  recorded := World.recorded_of_fresh fresh
  directed keys keyed := by
    obtain ⟨_, _, _, _, _, created⟩ := fresh.clients ()
    rw [created] at keyed
    cases keyed

theorem World.channel_of_step {fb : Binding Envelope} {ssl : OpenSsl} {world next : World Unit Unit}
    (channel : world.Channel) (library : SecureLibrary world ssl)
    (step : World.Step fb ssl world next) : next.Channel where
  recorded := World.recorded_of_step channel.recorded library.ideal step
  directed := by
    cases step with
    | client i step =>
        simpa only [Function.update_self] using
          ClientRun.directed_of_step library.labels channel.directed step
    | server j step => exact channel.directed

/-- In each direction the accepted plaintexts are a prefix of the sealed ones. -/
theorem secureChannel {fb : Binding Envelope} {first last : World Unit Unit} {keys : SessionKeys}
    (fresh : first.Fresh) (run : World.Reaches fb SecureLibrary first last)
    (clientKeys : (last.clients ()).endpoint.keys = some (clientEndpointKeys keys))
    (serverKeys : (last.servers ()).endpoint.keys = some (serverEndpointKeys keys)) :
    (last.servers ()).endpoint.accepted <+: (last.clients ()).endpoint.sealed ∧
      (last.clients ()).endpoint.accepted <+: (last.servers ()).endpoint.sealed := by
  have channel := run.invariant (World.channel_of_fresh fresh) World.channel_of_step
  have directed := channel.directed _ clientKeys
  -- a seal under a direction's key was made by that direction's sender: the other side's
  -- writer, which a reflected frame would need, has the other key
  constructor
  · refine (channel.recorded.servers ()).sound.accepted_prefix serverKeys clientKeys ?_
    intro call logged key
    rcases channel.recorded.origin call logged with ⟨_, own⟩ | ⟨_, _, _, keyed, theirKey, -⟩
    · exact own
    · rw [serverKeys] at keyed
      cases keyed
      exact absurd (key.symm.trans theirKey) directed
  · refine (channel.recorded.clients ()).sound.accepted_prefix clientKeys serverKeys ?_
    intro call logged key
    rcases channel.recorded.origin call logged with ⟨_, _, _, keyed, ownKey, -⟩ | ⟨_, theirs⟩
    · rw [clientKeys] at keyed
      cases keyed
      exact absurd (ownKey.symm.trans key) directed
    · exact theirs

theorem referenceLibrary_distinctKeyLabels (world : World Unit Unit) :
    DistinctKeyLabels (referenceLibrary world) := by
  intro secret salt clientToService serviceToClient c2s s2c
  unfold hkdfSha256 at c2s s2c
  split at c2s
  · cases c2s
  rename_i accepted
  rw [if_neg accepted] at s2c
  cases c2s
  cases s2c
  change referenceSuite.hkdf [] [] c2sKeyLabel kKeySize ≠
    referenceSuite.hkdf [] [] s2cKeyLabel kKeySize
  decide

/-- The honest run of the reference library, in which a record was accepted. -/
theorem secureChannel_honest_run :
    ∃ last : World Unit Unit, (last.servers ()).endpoint.accepted ≠ [] ∧
      (last.servers ()).endpoint.accepted <+: (last.clients ()).endpoint.sealed ∧
      (last.clients ()).endpoint.accepted <+: (last.servers ()).endpoint.sealed := by
  have serves : Serves referenceSuite SecureLibrary _ _ := referenceLibrary_serves fun world =>
    ⟨referenceLibrary_ideal world, referenceLibrary_distinctKeyLabels world⟩
  obtain ⟨last, answer, run, -, -, -, -, -, clientKeys, serverKeys, accepted⟩ :=
    World.exists_honest_run referenceEnvelopes_lawful serves referenceClient_ready rfl
      (by decide) (by decide) rfl (by decide) (by decide)
  exact ⟨last, accepted, secureChannel referenceWorld_fresh run clientKeys serverKeys⟩

end YoAuthorize.Protocol
