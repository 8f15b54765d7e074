import GraphClient.Client.Session
import GraphClient.Settings

namespace GraphClient

namespace Selection

variable {name : String} {selection : Selection} {fault : ConfigurationFault}

/-- A name that is known is the one of the policy it stands for. -/
theorem name_of_ofName (known : ofName name = .ok selection) : name = selection.name := by
  rw [ofName] at known
  split at known
  next random => exact Except.ok.inj known ▸ random
  next =>
    split at known
    next roundRobin => exact Except.ok.inj known ▸ roundRobin
    next => cases known

/-- Only names other than the two known ones are refused, and the refusal repeats them. -/
theorem fault_of_ofName (unknown : ofName name = .error fault) :
    fault = .unknownSelection name ∧ name ≠ "random" ∧ name ≠ "round_robin" := by
  rw [ofName] at unknown
  split at unknown
  next => cases unknown
  next notRandom =>
    split at unknown
    next => cases unknown
    next notRoundRobin => exact ⟨(Except.error.inj unknown).symm, notRandom, notRoundRobin⟩

end Selection

/-- A pool without a deadline stays as it is when it is given a deadline of zero. -/
theorem Pool.withDeadline_zero {pool : Pool} (unlimited : pool.deadline = none) :
    pool.withDeadline .zero = pool := by
  obtain ⟨endpoints, policy, deadline⟩ := pool
  subst unlimited
  rfl

namespace Settings

variable {read : Reader} {settings : Settings} {text reason : String}

/-- The milliseconds of the deadline; a deadline that is left out counts as zero. -/
def milliseconds (settings : Settings) : UInt64 :=
  settings.deadlineMs.getD 0

/-- The pool that is built by hand for these settings. -/
def poolByHand (settings : Settings) (policy : Policy) (endpoints : List Endpoint) : Pool :=
  ((Pool.ofEndpoints endpoints).withPolicy policy).withDeadline
    (.ofMilliseconds settings.milliseconds.toNat)

/-- The client that is built by hand for these settings. -/
def clientByHand (settings : Settings) (policy : Policy) (endpoints : List Endpoint) : Client :=
  (Client.ofPool (settings.poolByHand policy endpoints)).withShutdownTimeout
    (.ofMilliseconds settings.shutdownTimeoutMs.toNat)

theorem deadline_of_zero (zero : settings.milliseconds = 0) : settings.deadline = none := by
  obtain ⟨deadlineMs, name, shutdownTimeoutMs⟩ := settings
  cases deadlineMs with
  | none => rfl
  | some limit =>
      have absent : limit = 0 := zero
      subst absent
      rfl

theorem deadline_of_ne_zero (present : settings.milliseconds ≠ 0) :
    settings.deadline = some (.ofMilliseconds settings.milliseconds.toNat) := by
  obtain ⟨deadlineMs, name, shutdownTimeoutMs⟩ := settings
  cases deadlineMs with
  | none => exact absurd rfl present
  | some limit =>
      have positive : 0 < limit := UInt64.pos_iff_ne_zero.2 present
      rw [deadline, Option.filter_some, if_pos (decide_eq_true positive)]
      rfl

/-- A deadline that is left out, one of zero milliseconds and a duration of zero come to the same. -/
theorem pool_eq (settings : Settings) (endpoints : List Endpoint) :
    settings.pool endpoints =
      settings.policy.map fun selection => settings.poolByHand selection.policy endpoints := by
  rw [pool]
  cases settings.policy with
  | error fault => rfl
  | ok selection =>
      by_cases zero : settings.milliseconds = 0
      · have unlimited :
            ((Pool.ofEndpoints endpoints).withPolicy selection.policy).deadline = none := rfl
        have byHand : settings.poolByHand selection.policy endpoints =
            (Pool.ofEndpoints endpoints).withPolicy selection.policy := by
          rw [poolByHand, zero]
          exact Pool.withDeadline_zero unlimited
        rw [deadline_of_zero zero, Except.map, byHand]
        rfl
      · rw [deadline_of_ne_zero zero]
        rfl

/-- The check of the policy's name is all that stands between settings and their client. -/
theorem client_eq (settings : Settings) (endpoints : List Endpoint) :
    Client.ofSettings settings endpoints =
      settings.policy.map fun selection => settings.clientByHand selection.policy endpoints := by
  rw [Client.ofSettings, pool_eq]
  cases settings.policy <;> rfl

/-- What a document says is checked as settings are that are made in another way. -/
theorem ofText_of_said (said : read text = .ok settings) :
    ofText read text = settings.policy.map fun _ => settings := by
  rw [ofText, said]

theorem ofText_of_unsaid (unsaid : read text = .error reason) :
    ofText read text = .error (.unparsable reason) := by
  rw [ofText, unsaid]

/-- The check passes on what the document says and changes nothing. -/
theorem said_of_ofText (checked : ofText read text = .ok settings) : read text = .ok settings := by
  cases said : read text with
  | error reason =>
      rw [ofText_of_unsaid said] at checked
      cases checked
  | ok found =>
      rw [ofText_of_said said] at checked
      cases known : found.policy with
      | error fault =>
          rw [known] at checked
          cases checked
      | ok selection =>
          rw [known] at checked
          exact congrArg Except.ok (Except.ok.inj checked)

/-- Exactly the documents pass the check whose policy is known. -/
theorem ofText_eq_ok_iff : ofText read text = .ok settings ↔
    read text = .ok settings ∧ ∃ selection, settings.policy = .ok selection := by
  constructor
  · intro checked
    have said := said_of_ofText checked
    rw [ofText_of_said said] at checked
    cases known : settings.policy with
    | error fault =>
        rw [known] at checked
        cases checked
    | ok selection => exact ⟨said, selection, rfl⟩
  · rintro ⟨said, selection, known⟩
    rw [ofText_of_said said, known]
    rfl

/-- Settings of a document are read exactly if a client, or a pool, can be built from them, whatever
the endpoints are and whichever reader knows the syntax; a document that the reader refuses is refused
with its reason. Settings however made are good for a client exactly if they name a policy; else they
are refused with the same words when the client is built and when a document that says the same is
read. A client that is built from settings does in every session what the one does that is built by
hand. -/
theorem builds_as_by_hand (read : Reader) (endpoints : List Endpoint) :
    (∀ text settings, ofText read text = .ok settings ↔
        read text = .ok settings ∧
          (∃ client, Client.ofSettings settings endpoints = .ok client) ∧
          ∃ pool, settings.pool endpoints = .ok pool) ∧
      (∀ text reason, read text = .error reason →
        ∃ fault, ofText read text = .error fault ∧
          fault.text = "Failed to parse config: " ++ reason) ∧
      ∀ settings : Settings,
        ((∃ client, Client.ofSettings settings endpoints = .ok client) ↔
            settings.selection = "random" ∨ settings.selection = "round_robin") ∧
          (∀ fault, Client.ofSettings settings endpoints = .error fault →
            fault.text = "Invalid selection policy '" ++ settings.selection ++
                "'. Expected \"random\" or \"round_robin\"." ∧
              ∀ text, read text = .ok settings → ofText read text = .error fault) ∧
          ∀ client, Client.ofSettings settings endpoints = .ok client →
            settings.pool endpoints = .ok client.pool ∧
              ∃ policy : Policy,
                (settings.selection = "random" ∧ policy = .random ∨
                  settings.selection = "round_robin" ∧ policy = .roundRobin 0) ∧
                client = settings.clientByHand policy endpoints ∧
                ∀ flavour script,
                  Session.run { flavour, client } script =
                    Session.run
                      { flavour, client := settings.clientByHand policy endpoints } script := by
  refine ⟨fun text settings => ?_,
    fun text reason unsaid => ⟨_, ofText_of_unsaid unsaid, rfl⟩, fun settings => ?_⟩
  · rw [ofText_eq_ok_iff, client_eq, pool_eq]
    refine and_congr_right fun _ => ⟨?_, ?_⟩
    · rintro ⟨selection, known⟩
      rw [known]
      exact ⟨⟨_, rfl⟩, _, rfl⟩
    · rintro ⟨⟨client, built⟩, -⟩
      cases known : settings.policy with
      | error fault =>
          rw [known] at built
          cases built
      | ok selection => exact ⟨selection, rfl⟩
  · rw [client_eq, pool_eq]
    cases known : settings.policy with
    | error fault =>
        obtain ⟨rfl, notRandom, notRoundRobin⟩ := Selection.fault_of_ofName known
        refine ⟨⟨?_, ?_⟩, ?_, ?_⟩
        · rintro ⟨client, ⟨⟩⟩
        · rintro (random | roundRobin)
          · exact absurd random notRandom
          · exact absurd roundRobin notRoundRobin
        · rintro _ ⟨⟩
          refine ⟨rfl, fun text said => ?_⟩
          rw [ofText_of_said said, known]
          rfl
        · rintro client ⟨⟩
    | ok selection =>
        have named := Selection.name_of_ofName known
        refine ⟨⟨fun _ => ?_, fun _ => ⟨_, rfl⟩⟩, ?_, ?_⟩
        · cases selection
          · exact .inl named
          · exact .inr named
        · rintro fault ⟨⟩
        · rintro _ ⟨⟩
          refine ⟨rfl, selection.policy, ?_, rfl, fun flavour script => rfl⟩
          cases selection
          · exact .inl ⟨named, rfl⟩
          · exact .inr ⟨named, rfl⟩

/-- A reader that knows two documents, one of which names a policy that there is not. -/
def twoDocuments : Reader := fun text =>
  if text = "deadline_ms = 250\nselection = \"round_robin\"\n" then
    .ok { deadlineMs := some 250, selection := "round_robin" }
  else if text = "selection = \"weighted\"\n" then .ok { selection := "weighted" }
  else .error "an unknown document"

/-- The client of the first document is the one that is built by hand. The other document is refused
in the words in which its settings are. -/
theorem builds_as_by_hand_of_documents :
    let good : Settings := { deadlineMs := some 250, selection := "round_robin" }
    let bad : Settings := { selection := "weighted" }
    (ofText twoDocuments "deadline_ms = 250\nselection = \"round_robin\"\n" = .ok good ∧
        ∃ client, Client.ofSettings good [{}] = .ok client ∧
          client = good.clientByHand (.roundRobin 0) [{}]) ∧
      Client.ofSettings bad [{}] = .error (.unknownSelection "weighted") ∧
      twoDocuments "selection = \"weighted\"\n" = .ok bad ∧
      ofText twoDocuments "selection = \"weighted\"\n" =
        .error (.unknownSelection "weighted") := by
  intro good bad
  have checked : ofText twoDocuments "deadline_ms = 250\nselection = \"round_robin\"\n" =
      .ok good := rfl
  have refused : Client.ofSettings bad [{}] = .error (.unknownSelection "weighted") := rfl
  have said : twoDocuments "selection = \"weighted\"\n" = .ok bad := rfl
  obtain ⟨documents, -, others⟩ := builds_as_by_hand twoDocuments [{}]
  obtain ⟨-, ⟨client, built⟩, -⟩ := (documents _ _).1 checked
  obtain ⟨-, same⟩ := (others bad).2.1 _ refused
  obtain ⟨-, policy, named, byHand, -⟩ := (others good).2.2 client built
  have roundRobin : policy = .roundRobin 0 := by
    rcases named with ⟨random, -⟩ | ⟨-, named⟩
    · exact absurd random (by decide)
    · exact named
  rw [roundRobin] at byHand
  exact ⟨⟨checked, client, built, byHand⟩, refused, said, same _ said⟩

end Settings

end GraphClient
