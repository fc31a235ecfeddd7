import RoxabiFactory.AdminGrants
import RoxabiFactory.AgentGrantCoherence

/-!
# Access follows the administrator's list

Access is decided for all identities of a user at once, but the revokes go to
the linked platform keys only.  So a grant to the id of the user, which was made
before a key was linked, survives the removal of its agent from the list, and
it is the only one that does.
-/

namespace RoxabiFactory

namespace AgentGrants

/-! ## Linked keys -/

section Identities

variable {table : IdentityTable} {key userId : String}

theorem platformPrefixes_apart : ∀ start ∈ platformPrefixes,
    ¬ start.toList <+: userIdPrefix.toList ∧ ¬ userIdPrefix.toList <+: start.toList := by
  decide

theorem not_isUserId_of_isPlatformKey (canonical : isPlatformKey key = true) :
    isUserId key = false := by
  obtain ⟨start, listed, starts⟩ := List.any_eq_true.1 canonical
  have begins := (Bool.and_eq_true_iff.1 starts).1
  apply Bool.eq_false_of_not_eq_true
  intro isUser
  have user := (Bool.and_eq_true_iff.1 isUser).1
  have one := List.isPrefixOf_iff_prefix.1 begins
  have other := List.isPrefixOf_iff_prefix.1 user
  obtain ⟨notOne, notOther⟩ := platformPrefixes_apart start listed
  rcases List.prefix_or_prefix_of_prefix one other with shorter | shorter
  · exact notOne shorter
  · exact notOther shorter

theorem mem_keysOf_iff : key ∈ table.keysOf userId ↔
      ∃ row ∈ table.rows, row.userId = userId ∧ row.platformKey = key := by
  unfold IdentityTable.keysOf
  rw [List.mem_toFinset, List.mem_map]
  constructor
  · rintro ⟨row, member, same⟩
    obtain ⟨listed, owner⟩ := List.mem_filter.1 member
    exact ⟨row, listed, of_decide_eq_true owner, same⟩
  · rintro ⟨row, listed, owner, same⟩
    exact ⟨row, List.mem_filter.2 ⟨listed, decide_eq_true owner⟩, same⟩

theorem find?_of_mem {rows : List Identity} {row : Identity}
    (unique : (rows.map Identity.platformKey).Nodup) (listed : row ∈ rows) :
    rows.find? (fun other => decide (other.platformKey = row.platformKey)) =
      some row := by
  induction rows with
  | nil => cases listed
  | cons first rest ih =>
    obtain ⟨fresh, nodup⟩ := List.nodup_cons.1 unique
    rcases List.mem_cons.1 listed with rfl | later
    · exact List.find?_cons_of_pos (decide_eq_true rfl)
    · have differs : ¬ first.platformKey = row.platformKey := by
        intro same
        apply fresh
        rw [same]
        exact List.mem_map_of_mem later
      rw [List.find?_cons_of_neg (by simpa using differs)]
      exact ih nodup later

theorem resolveUserId_warm (linked : key ∈ table.keysOf userId) :
    (UserStore.warm table).resolveUserId key = some userId := by
  obtain ⟨row, listed, rfl, rfl⟩ := mem_keysOf_iff.1 linked
  change (table.rows.find? _).map _ = _
  rw [find?_of_mem table.unique listed]
  rfl

theorem expandUserPrincipals_warm {id : String} (isUser : isUserId userId = true)
    (linked : id = userId ∨ id ∈ table.keysOf userId) :
    expandUserPrincipals (some (.warm table)) id =
      insert userId (table.keysOf userId) := by
  unfold expandUserPrincipals
  rcases linked with rfl | linked
  · exact if_pos isUser
  · obtain ⟨row, listed, -, rfl⟩ := mem_keysOf_iff.1 linked
    have resolved := resolveUserId_warm linked
    have aliases : (UserStore.warm table).resolveAliases row.platformKey =
        table.keysOf userId := by
      change (UserStore.warm table).keyToUser row.platformKey = some userId
        at resolved
      unfold UserStore.resolveAliases
      rw [resolved]
      exact Finset.insert_eq_of_mem linked
    simp only [not_isUserId_of_isPlatformKey row.canonical, resolved, aliases, Option.toFinset_some]
    ext other
    simp only [Bool.false_eq_true, if_false, Finset.mem_insert, Finset.mem_union,
      Finset.mem_singleton]
    constructor
    · rintro (rfl | same | member)
      · exact .inr linked
      · exact .inl same
      · exact .inr member
    · exact .inr

end Identities

namespace AdminGrants

/-! ## Grants to users -/

/-- A user id holds a `USE` grant of the agent. -/
def Held (rows : List AgentGrant) (agentName id : String) : Prop :=
  ∃ row ∈ rows, row.agentName = agentName ∧ row.capability = .use ∧
    row.principal.kind = .user ∧ row.principal.id = id

/-- The grants of a principal. -/
def rowsOf (principal : Principal) (rows : List AgentGrant) : List AgentGrant :=
  rows.filter fun row => decide (row.principal = principal)

/-- The cache has the rows of each agent. -/
def Coherent (state : State) : Prop := ∀ agentName, state.cache agentName =
    cacheEntry (agentRows agentName state.rows)

instance (rows : List AgentGrant) (agentName id : String) : Decidable (Held rows agentName id) :=
  inferInstanceAs (Decidable (∃ row ∈ rows, _))

section Rows

variable {rows : List AgentGrant} {agentName id : String} {state : State}

theorem allows_iff (coherent : Coherent state) : state.allows agentName id = true ↔
      ∃ other ∈ expandUserPrincipals (some state.users) id,
        Held state.rows agentName other := by
  unfold State.allows
  rw [allowed_authorize_iff, coherent, getD_cacheEntry]
  constructor
  · rintro ⟨row, member, use, ⟨kind, listed⟩ | ⟨-, absent⟩⟩
    · obtain ⟨present, name⟩ := List.mem_filter.1 member
      exact ⟨row.principal.id, listed, row, present, of_decide_eq_true name, use, kind, rfl⟩
    · cases absent
  · rintro ⟨_, listed, row, present, name, use, kind, rfl⟩
    exact ⟨row, List.mem_filter.2 ⟨present, decide_eq_true name⟩, use, .inl ⟨kind, listed⟩⟩

theorem held_insertGrant_iff (new : AgentGrant) : Held (insertGrant new rows) agentName id ↔
      Held rows agentName id ∨ Held [new] agentName id := by
  unfold insertGrant
  split
  · rename_i found
    obtain ⟨old, listed, same⟩ := List.any_eq_true.1 found
    have renewed (row : AgentGrant) : (new.renew row).agentName = row.agentName ∧
          (new.renew row).capability = row.capability ∧
          (new.renew row).principal = row.principal := by
      unfold AgentGrant.renew
      split
      · exact ⟨rfl, rfl, rfl⟩
      · exact ⟨rfl, rfl, rfl⟩
    constructor
    · rintro ⟨row, member, holds⟩
      obtain ⟨before, present, rfl⟩ := List.mem_map.1 member
      obtain ⟨name, capability, principal⟩ := renewed before
      rw [name, capability, principal] at holds
      exact .inl ⟨before, present, holds⟩
    · rintro (⟨row, present, holds⟩ | ⟨row, member, holds⟩)
      · refine ⟨new.renew row, List.mem_map_of_mem present, ?_⟩
        obtain ⟨name, capability, principal⟩ := renewed row
        rw [name, capability, principal]
        exact holds
      · cases List.mem_singleton.1 member
        refine ⟨new.renew old, List.mem_map_of_mem listed, ?_⟩
        obtain ⟨name, capability, principal⟩ := renewed old
        obtain ⟨agent, subject, kind⟩ := of_decide_eq_true same
        rw [name, capability, principal, agent, subject, kind]
        exact holds
  · constructor
    · rintro ⟨row, member, holds⟩
      rcases List.mem_append.1 member with present | added
      · exact .inl ⟨row, present, holds⟩
      · exact .inr ⟨row, added, holds⟩
    · rintro (⟨row, present, holds⟩ | ⟨row, added, holds⟩)
      · exact ⟨row, List.mem_append_left _ present, holds⟩
      · exact ⟨row, List.mem_append_right _ added, holds⟩

theorem held_deleteGrant_iff {name : String} {principal : Principal}
    (isUser : principal.kind = .user) :
    Held (deleteGrant name principal .use rows) agentName id ↔
      Held rows agentName id ∧ ¬ (agentName = name ∧ id = principal.id) := by
  constructor
  · rintro ⟨row, member, rfl, use, kind, rfl⟩
    obtain ⟨present, kept⟩ := List.mem_filter.1 member
    refine ⟨⟨row, present, rfl, use, kind, rfl⟩, ?_⟩
    rintro ⟨agent, subject⟩
    have same : row.principal = principal := by
      cases held : row.principal
      cases principal
      simp only [held, Principal.mk.injEq] at subject kind isUser ⊢
      exact ⟨kind.trans isUser.symm, subject⟩
    have deleted : row.IsFor name principal .use := ⟨agent, same, use⟩
    rw [decide_eq_true deleted] at kept
    cases kept
  · rintro ⟨⟨row, present, rfl, use, kind, rfl⟩, apart⟩
    refine ⟨row, List.mem_filter.2 ⟨present, ?_⟩, rfl, use, kind, rfl⟩
    have kept : ¬ row.IsFor name principal .use := by
      rintro ⟨agent, subject, -⟩
      exact apart ⟨agent, congrArg Principal.id subject⟩
    rw [decide_eq_false kept]
    rfl

theorem rowsOf_insertGrant {new : AgentGrant} {principal : Principal}
    (apart : new.principal ≠ principal) :
    rowsOf principal (insertGrant new rows) = rowsOf principal rows := by
  apply filter_insertGrant
  intro row found
  exact decide_eq_false fun own => apart (found.2.1.symm.trans own)

theorem rowsOf_deleteGrant {name : String} {principal other : Principal}
    {capability : Capability} (apart : principal ≠ other) :
    rowsOf other (deleteGrant name principal capability rows) =
      rowsOf other rows := by
  apply filter_deleteGrant
  intro row found
  exact decide_eq_false fun own => apart (found.2.1.symm.trans own)

end Rows

/-! ## What a request changes -/

/-- A part of a request changes the grants of some user ids only, and whether
these hold an agent. -/
structure Alters (subjects : Set String)
    (change : String → String → Prop → Prop) (before after : State) :
    Prop where
  agents : after.agents = before.agents
  identities : after.identities = before.identities
  warm : before.users = .warm before.identities → after.users = .warm after.identities
  held : ∀ agentName id, Held after.rows agentName id ↔
    change agentName id (Held before.rows agentName id)
  others : ∀ principal : Principal, (principal.kind = .user → principal.id ∉ subjects) →
      rowsOf principal after.rows = rowsOf principal before.rows

namespace Alters

variable {subjects : Set String} {first second : String → String → Prop → Prop}
variable {before middle after : State}

theorem trans (one : Alters subjects first before middle)
    (two : Alters subjects second middle after) :
    Alters subjects (fun agentName id held =>
      second agentName id (first agentName id held)) before after where
  agents := two.agents.trans one.agents
  identities := two.identities.trans one.identities
  warm fresh := two.warm (one.warm fresh)
  held agentName id := by
    rw [two.held, propext (one.held agentName id)]
  others principal apart := (two.others principal apart).trans (one.others principal apart)

theorem congr {other : String → String → Prop → Prop} (alters : Alters subjects first before after)
    (same : ∀ agentName id held,
      first agentName id held ↔ other agentName id held) :
    Alters subjects other before after :=
  { alters with
    held := fun agentName id =>
      (alters.held agentName id).trans (same agentName id _) }

theorem mono {more : Set String} (alters : Alters subjects first before after)
    (subset : subjects ⊆ more) : Alters more first before after :=
  { alters with
    others := fun principal apart => alters.others principal
      fun isUser listed => apart isUser (subset listed) }

end Alters

/-- A grant that is performed adds a holder. -/
def adds (agents ids : Set String) (agentName id : String) (held : Prop) :
    Prop :=
  held ∨ agentName ∈ agents ∧ id ∈ ids

/-- A revoke that is performed removes a holder. -/
def removes (agents ids : Set String) (agentName id : String) (held : Prop) :
    Prop :=
  held ∧ ¬ (agentName ∈ agents ∧ id ∈ ids)

section Requests

variable (grantedBy source : String) (now : ℤ)

theorem ok_of_perform {call : GrantStore.Call} {state : State} {value : Unit}
    (returned : ((perform call).runOn state).1 = .ok value) :
    ((perform call).runOn state).2 = state.write call := by
  unfold perform at returned ⊢
  simp only at returned ⊢
  by_cases valid : call.valid = true
  · rw [if_pos valid]
  · rw [if_neg valid] at returned
    cases returned

theorem satisfies_userPrincipal (id : String) :
    (userPrincipal id).Satisfies fun before principal after =>
      principal.kind = .user ∧ principal.id = id ∧ after = before := by
  intro state principal returned
  unfold userPrincipal at returned ⊢
  by_cases nonempty : id ≠ ""
  · rw [dif_pos nonempty] at returned ⊢
    cases returned
    exact ⟨rfl, rfl, rfl⟩
  · rw [dif_neg nonempty] at returned
    cases returned

theorem alters_grantUse (agentName id : String) :
    (grantUse grantedBy source now agentName id).Satisfies
      fun before _ after =>
        Alters {id} (adds {agentName} {id}) before after := by
  unfold grantUse
  refine .bind (satisfies_userPrincipal id) ?_
  rintro before principal state value returned ⟨isUser, rfl, rfl⟩
  rw [ok_of_perform returned]
  constructor
  · rfl
  · rfl
  · exact fun fresh => fresh
  · intro name other
    refine (held_insertGrant_iff _).trans (or_congr Iff.rfl ?_)
    constructor
    · rintro ⟨row, member, rfl, -, -, rfl⟩
      cases List.mem_singleton.1 member
      exact ⟨rfl, rfl⟩
    · rintro ⟨rfl, rfl⟩
      exact ⟨_, List.mem_singleton_self _, rfl, rfl, isUser, rfl⟩
  · intro other apart
    apply rowsOf_insertGrant
    rintro rfl
    exact apart isUser rfl

theorem alters_revokeUse (agentName id : String) :
    (revokeUse agentName id).Satisfies fun before _ after =>
      Alters {id} (removes {agentName} {id}) before after := by
  unfold revokeUse
  refine .bind (satisfies_userPrincipal id) ?_
  rintro before principal state value returned ⟨isUser, rfl, rfl⟩
  rw [ok_of_perform returned]
  constructor
  · rfl
  · rfl
  · exact fun fresh => fresh
  · intro name other
    exact held_deleteGrant_iff isUser
  · intro other apart
    apply rowsOf_deleteGrant
    rintro rfl
    exact apart isUser rfl

theorem satisfies_trans {α β : Type} {subjects : Set String}
    {change other : String → String → Prop → Prop} {first : Request α}
    {next : α → Request β}
    (one : first.Satisfies fun before _ after =>
      Alters subjects change before after)
    (two : ∀ value, (next value).Satisfies fun before _ after =>
      Alters subjects other before after) :
    (first >>= next).Satisfies fun before _ after =>
      Alters subjects (fun agentName id held =>
        other agentName id (change agentName id held)) before after := by
  refine .bind one ?_
  intro before value state result returned alters
  exact alters.trans (two value state result returned)

theorem satisfies_mono {α : Type} {subjects : Set String}
    (more : Set String) {change other : String → String → Prop → Prop} {request : Request α}
    (alters : request.Satisfies fun before _ after =>
      Alters subjects change before after)
    (subset : subjects ⊆ more)
    (same : ∀ agentName id held,
      change agentName id held ↔ other agentName id held) :
    request.Satisfies fun before _ after =>
      Alters more other before after :=
  fun state value returned =>
    ((alters state value returned).mono subset).congr same

theorem satisfies_pure {α : Type} (value : α) (subjects : Set String) :
    (pure value : Request α).Satisfies fun before _ after =>
      Alters subjects (fun _ _ held => held) before after := by
  intro state result returned
  exact ⟨rfl, rfl, fun fresh => fresh, fun _ _ => Iff.rfl, fun _ _ => rfl⟩

theorem adds_cons {agents : Set String} {key : String} {rest : List String}
    (agentName id : String) (held : Prop) :
    adds agents {other | other ∈ rest} agentName id (adds agents {key} agentName id held) ↔
      adds agents {other | other ∈ key :: rest} agentName id held := by
  simp only [adds, Set.mem_singleton_iff, Set.mem_ofPred_eq, List.mem_cons]
  tauto

theorem removes_cons {agents : Set String} {key : String} {rest : List String}
    (agentName id : String) (held : Prop) :
    removes agents {other | other ∈ rest} agentName id (removes agents {key} agentName id held) ↔
      removes agents {other | other ∈ key :: rest} agentName id held := by
  simp only [removes, Set.mem_singleton_iff, Set.mem_ofPred_eq, List.mem_cons]
  tauto

theorem alters_grantKeys (agentName : String) (keys : List String) :
    (grantKeys grantedBy source now agentName keys).Satisfies
      fun before _ after =>
        Alters {key | key ∈ keys} (adds {agentName} {key | key ∈ keys})
          before after := by
  induction keys with
  | nil =>
    refine satisfies_mono _ (satisfies_pure () ∅) (Set.empty_subset _) ?_
    intro name id held
    simp [adds]
  | cons key rest ih =>
    unfold grantKeys
    have one := satisfies_mono {other | other ∈ key :: rest}
      (alters_grantUse grantedBy source now agentName key)
      (by simp) (fun _ _ _ => Iff.rfl)
    have two := satisfies_mono {other | other ∈ key :: rest} ih
      (fun _ listed => List.mem_cons_of_mem _ listed) (fun _ _ _ => Iff.rfl)
    exact satisfies_mono _ (satisfies_trans one fun _ => two) subset_rfl adds_cons

theorem alters_revokeSubjects (agentName : String) (subjects : List String) :
    (revokeSubjects agentName subjects).Satisfies fun before _ after =>
      Alters {id | id ∈ subjects} (removes {agentName} {id | id ∈ subjects})
        before after := by
  induction subjects with
  | nil =>
    refine satisfies_mono _ (satisfies_pure () ∅) (Set.empty_subset _) ?_
    intro name id held
    simp [removes]
  | cons subject rest ih =>
    unfold revokeSubjects
    have one := satisfies_mono {other | other ∈ subject :: rest}
      (alters_revokeUse agentName subject) (by simp) (fun _ _ _ => Iff.rfl)
    have two := satisfies_mono {other | other ∈ subject :: rest} ih
      (fun _ listed => List.mem_cons_of_mem _ listed) (fun _ _ _ => Iff.rfl)
    exact satisfies_mono _ (satisfies_trans one fun _ => two) subset_rfl removes_cons

def linkedKeys (state : State) (userId : String) : List String :=
  sortKeys (state.identities.keysOf userId)

theorem alters_grantHumanPlatforms (agentName userId : String) :
    (grantHumanPlatforms grantedBy source now agentName userId).Satisfies
      fun before _ after =>
        Alters {key | key ∈ linkedKeys before userId}
          (adds {agentName} {key | key ∈ linkedKeys before userId})
          before after := by
  intro before value returned
  unfold grantHumanPlatforms at returned ⊢
  rw [Action.runOn_bind] at returned ⊢
  simp only [rewarm] at returned ⊢
  rw [Action.runOn_bind, Action.runOn_reads] at returned ⊢
  have same : sortedKeys { before with users := .warm before.identities } userId =
      linkedKeys before userId := rfl
  simp only [same] at returned ⊢
  by_cases none : linkedKeys before userId = []
  · rw [if_pos none] at returned
    cases returned
  · rw [if_neg none] at returned ⊢
    have alters := alters_grantKeys grantedBy source now agentName _ _ value
      returned
    exact { alters with warm := fun _ => alters.warm rfl }

theorem alters_grantAgent (userId : String) (keys : List String) (agentName : String) :
    (grantAgent grantedBy source now userId keys agentName).Satisfies
      fun before _ after => linkedKeys before userId = keys →
        Alters {id | id ∈ subjectsOf userId keys}
          (adds {agentName} {id | id ∈ subjectsOf userId keys}) before after := by
  intro before value returned linked
  unfold grantAgent at returned ⊢
  unfold subjectsOf
  subst linked
  by_cases none : linkedKeys before userId = []
  · have only : {id | id ∈ [userId]} = ({userId} : Set String) := by
      ext id
      simp
    rw [if_pos none] at returned
    rw [if_pos none, if_pos none, only]
    exact alters_grantUse grantedBy source now agentName userId before value
      returned
  · rw [if_neg none] at returned
    rw [if_neg none, if_neg none]
    exact alters_grantHumanPlatforms grantedBy source now agentName userId before value returned

theorem alters_grantAgents (userId : String) (keys names : List String) :
    (grantAgents grantedBy source now userId keys names).Satisfies
      fun before _ after => linkedKeys before userId = keys →
        Alters {id | id ∈ subjectsOf userId keys}
          (adds {name | name ∈ names} {id | id ∈ subjectsOf userId keys})
          before after := by
  induction names with
  | nil =>
    intro before value returned linked
    apply (satisfies_mono _ (satisfies_pure () ∅) (Set.empty_subset _) _) before value returned
    intro name id held
    simp [adds]
  | cons agentName rest ih =>
    unfold grantAgents
    refine .bind (alters_grantAgent grantedBy source now userId keys agentName) ?_
    intro before value state result returned alters linked
    have one := alters linked
    have still : linkedKeys state userId = keys := by
      rw [← linked, linkedKeys, one.identities]
      rfl
    refine (one.trans (ih state result returned still)).congr ?_
    intro name id held
    simp only [adds, Set.mem_singleton_iff, Set.mem_ofPred_eq, List.mem_cons]
    tauto

theorem alters_revokeAgents (userId : String) (keys names : List String) :
    (revokeAgents userId keys names).Satisfies fun before _ after =>
      Alters {id | id ∈ subjectsOf userId keys}
        (removes {name | name ∈ names} {id | id ∈ subjectsOf userId keys})
        before after := by
  induction names with
  | nil =>
    refine satisfies_mono _ (satisfies_pure () ∅) (Set.empty_subset _) ?_
    intro name id held
    simp [removes]
  | cons agentName rest ih =>
    unfold revokeAgents
    refine satisfies_mono _ (satisfies_trans
      (alters_revokeSubjects agentName (subjectsOf userId keys))
      fun _ => ih) subset_rfl ?_
    intro name id held
    simp only [removes, Set.mem_singleton_iff, Set.mem_ofPred_eq, List.mem_cons]
    tauto

theorem alters_exchange (userId : String) (keys missing excess : List String) :
    (exchange grantedBy source now userId keys missing excess).Satisfies
      fun before _ after => linkedKeys before userId = keys →
        Alters {id | id ∈ subjectsOf userId keys} (fun agentName id held =>
            removes {name | name ∈ excess} {id | id ∈ subjectsOf userId keys}
              agentName id (adds {name | name ∈ missing}
                {id | id ∈ subjectsOf userId keys} agentName id held))
          before after := by
  refine .bind (alters_grantAgents grantedBy source now userId keys missing) ?_
  intro before value state result returned granted linked
  have revoked := satisfies_trans (alters_revokeAgents userId keys excess)
    (fun _ => satisfies_pure missing _) state result returned
  exact (granted linked).trans revoked

/-- The state in which the current agents are determined. -/
def rewarmed (state : State) : State := { state with users := .warm state.identities }

theorem satisfies_syncUserAgents (userId : String) (desired : List String) :
    (syncUserAgents grantedBy source now userId desired).Satisfies
      fun before _ after =>
        let keys := linkedKeys before userId
        let current := currentAgents (rewarmed before) userId keys
        (∀ name ∈ desired, name ∈ before.agents) ∧ Alters {id | id ∈ subjectsOf userId keys}
            (fun agentName id held =>
              removes {name | name ∈ (current \ desired.toFinset).sort (· ≤ ·)}
                {id | id ∈ subjectsOf userId keys} agentName id
                (adds {name | name ∈ (desired.toFinset \ current).sort (· ≤ ·)}
                  {id | id ∈ subjectsOf userId keys} agentName id held))
            (rewarmed before) after := by
  intro before value returned keys current
  unfold syncUserAgents at returned ⊢
  rw [Action.runOn_bind, Action.runOn_reads] at returned ⊢
  simp only at returned ⊢
  by_cases unknown : desired.filter (fun name => decide (name ∉ before.agents)) = []
  · rw [if_neg (not_not_intro unknown)] at returned ⊢
    rw [Action.runOn_bind] at returned ⊢
    simp only [rewarm] at returned ⊢
    rw [Action.runOn_bind, Action.runOn_reads] at returned ⊢
    simp only at returned ⊢
    rw [Action.runOn_bind, Action.runOn_reads] at returned ⊢
    simp only at returned ⊢
    constructor
    · intro name listed
      by_contra absent
      exact List.filter_eq_nil_iff.1 unknown name listed (decide_eq_true absent)
    · exact alters_exchange grantedBy source now userId keys _ _ _ _ returned rfl
  · rw [if_pos unknown] at returned
    cases returned

end Requests

/-! ## Histories -/

section Coherence

variable (grantedBy source : String) (now : ℤ)

theorem keeps_perform (call : GrantStore.Call) : (perform call).Keeps Coherent := by
  intro state coherent
  unfold perform
  simp only
  split
  · intro agentName
    change Function.update state.cache call.agentName _ agentName =
      cacheEntry (agentRows agentName (call.apply state.rows))
    by_cases same : agentName = call.agentName
    · rw [same, Function.update_self]
    · rw [Function.update_of_ne same, coherent, GrantStore.agentRows_apply same]
  · exact coherent

theorem keeps_userPrincipal (id : String) : (userPrincipal id).Keeps Coherent := by
  unfold userPrincipal
  split
  · exact .pure _
  · exact .raise _

theorem keeps_rewarm : rewarm.Keeps Coherent :=
  fun _ coherent => coherent

theorem keeps_grantUse (agentName id : String) :
    (grantUse grantedBy source now agentName id).Keeps Coherent :=
  .bind (keeps_userPrincipal id) fun _ => keeps_perform _

theorem keeps_revokeUse (agentName id : String) : (revokeUse agentName id).Keeps Coherent :=
  .bind (keeps_userPrincipal id) fun _ => keeps_perform _

theorem keeps_grantKeys (agentName : String) (keys : List String) :
    (grantKeys grantedBy source now agentName keys).Keeps Coherent := by
  induction keys with
  | nil => exact .pure ()
  | cons key rest ih =>
    exact .bind (keeps_grantUse grantedBy source now agentName key)
      fun _ => ih

theorem keeps_grantAgent (userId : String) (keys : List String) (agentName : String) :
    (grantAgent grantedBy source now userId keys agentName).Keeps
      Coherent := by
  unfold grantAgent
  split
  · exact keeps_grantUse grantedBy source now agentName userId
  · refine .bind keeps_rewarm fun _ => .bind (.reads _) fun found => ?_
    split
    · exact .raise _
    · exact keeps_grantKeys grantedBy source now agentName found

theorem keeps_grantAgents (userId : String) (keys names : List String) :
    (grantAgents grantedBy source now userId keys names).Keeps Coherent := by
  induction names with
  | nil => exact .pure ()
  | cons agentName rest ih =>
    exact .bind (keeps_grantAgent grantedBy source now userId keys agentName)
      fun _ => ih

theorem keeps_revokeSubjects (agentName : String) (subjects : List String) :
    (revokeSubjects agentName subjects).Keeps Coherent := by
  induction subjects with
  | nil => exact .pure ()
  | cons subject rest ih =>
    exact .bind (keeps_revokeUse agentName subject) fun _ => ih

theorem keeps_revokeAgents (userId : String) (keys names : List String) :
    (revokeAgents userId keys names).Keeps Coherent := by
  induction names with
  | nil => exact .pure ()
  | cons agentName rest ih =>
    exact .bind (keeps_revokeSubjects agentName _) fun _ => ih

theorem keeps_syncUserAgents (userId : String) (desired : List String) :
    (syncUserAgents grantedBy source now userId desired).Keeps Coherent := by
  refine .bind (.reads _) fun unknown => ?_
  split
  · exact .raise _
  · exact .bind keeps_rewarm fun _ => .bind (.reads _) fun keys =>
      .bind (.reads _) fun current =>
        .bind (keeps_grantAgents grantedBy source now userId keys _) fun _ =>
          .bind (keeps_revokeAgents userId keys _) fun _ => .pure _

theorem cacheCoherent_of_reachable {state : State}
    (reached : system.Reachable state) : Coherent state := by
  apply reached.invariant
  · exact fun _ loaded => loaded
  · intro state event after coherent _ steps
    cases steps
    cases event with
    | link identities users => exact coherent
    | setAgents agents => exact coherent
    | perform call => exact keeps_perform call state coherent
    | sync userId desired grantedBy source now =>
      exact keeps_syncUserAgents grantedBy source now userId desired state coherent

end Coherence

/-- Access is what the list says, and nobody else's grants have changed. -/
structure FollowsList (userId : String) (desired : List String) (before after : State) : Prop where
  access : ∀ agentName ∈ after.agents, ∀ id, id = userId ∨ id ∈ after.identities.keysOf userId →
      (after.allows agentName id = true ↔ agentName ∈ desired)
  others : ∀ principal : Principal, (principal.kind = .user → principal.id ≠ userId ∧
      principal.id ∉ after.identities.keysOf userId) →
      rowsOf principal after.rows = rowsOf principal before.rows

/-- No key is linked to the user, or no grant to the id of the user itself has
to go. -/
def Removable (userId : String) (desired : List String) (state : State) :
    Prop :=
  state.identities.keysOf userId = ∅ ∨ ∀ agentName ∈ state.agents, agentName ∉ desired →
      ¬ Held state.rows agentName userId

instance (userId : String) (desired : List String) (state : State) :
    Decidable (Removable userId desired state) :=
  inferInstanceAs (Decidable (_ ∨ ∀ agentName ∈ state.agents, _))

section Access

variable {before after : State} {userId : String} {desired : List String}

/-- The identities that access is decided for. -/
def person (state : State) (userId : String) : Finset String :=
  insert userId (state.identities.keysOf userId)

theorem mem_person {state : State} {id : String} : id ∈ person state userId ↔
      id = userId ∨ id ∈ state.identities.keysOf userId :=
  Finset.mem_insert

theorem allows_iff_person {state : State} (coherent : Coherent state)
    (warm : state.users = .warm state.identities)
    (isUser : isUserId userId = true) {agentName id : String}
    (linked : id ∈ person state userId) :
    state.allows agentName id = true ↔
      ∃ other ∈ person state userId, Held state.rows agentName other := by
  rw [allows_iff coherent, warm, expandUserPrincipals_warm isUser (mem_person.1 linked)]
  rfl

theorem mem_subjectsOf {id : String} : id ∈ subjectsOf userId (linkedKeys before userId) ↔
      id ∈ before.identities.keysOf userId ∨ before.identities.keysOf userId = ∅ ∧ id = userId := by
  unfold subjectsOf linkedKeys sortKeys
  by_cases empty : before.identities.keysOf userId = ∅
  · simp [empty]
  · have some : (before.identities.keysOf userId).sort (· ≤ ·) ≠ [] := by
      intro none
      apply empty
      rw [← Finset.sort_toFinset (before.identities.keysOf userId) (· ≤ ·), none]
      rfl
    rw [if_neg some, Finset.mem_sort]
    simp [empty]

theorem mem_currentAgents (coherent : Coherent before)
    (isUser : isUserId userId = true) {agentName : String} :
    agentName ∈ currentAgents (rewarmed before) userId (linkedKeys before userId) ↔
      agentName ∈ before.agents ∧
        ∃ other ∈ person before userId, Held before.rows agentName other := by
  have fresh : Coherent (rewarmed before) := coherent
  have decided {id : String} (linked : id ∈ person before userId) :
      (rewarmed before).allows agentName id = true ↔
        ∃ other ∈ person before userId, Held before.rows agentName other :=
    allows_iff_person fresh rfl isUser linked
  unfold currentAgents agentsForUser
  simp only [List.mem_toFinset, List.mem_flatMap, List.mem_filter,
    List.mem_mergeSort, List.mem_cons]
  constructor
  · rintro ⟨id, listed, known, allowed⟩
    have linked : id ∈ person before userId := by
      rw [mem_person]
      exact listed.imp_right (Finset.mem_sort _).1
    exact ⟨known, (decided linked).1 allowed⟩
  · rintro ⟨known, held⟩
    have linked : userId ∈ person before userId := Finset.mem_insert_self _ _
    exact ⟨userId, .inl rfl, known, (decided linked).2 held⟩

theorem held_of_syncUserAgents (coherent : Coherent before)
    (isUser : isUserId userId = true) {grantedBy source : String} {now : ℤ}
    {granted : List String}
    (returned : ((syncUserAgents grantedBy source now userId desired).runOn
      before).1 = .ok granted) {agentName : String}
    (known : agentName ∈ before.agents) (id : String) :
    let after := ((syncUserAgents grantedBy source now userId desired).runOn before).2
    let current := ∃ other ∈ person before userId, Held before.rows agentName other
    let subject := id ∈ before.identities.keysOf userId ∨
      before.identities.keysOf userId = ∅ ∧ id = userId
    Held after.rows agentName id ↔ (Held before.rows agentName id ∨
        (agentName ∈ desired ∧ ¬ current) ∧ subject) ∧
        ¬ ((current ∧ agentName ∉ desired) ∧ subject) := by
  intro after current subject
  obtain ⟨-, alters⟩ := satisfies_syncUserAgents grantedBy source now userId
    desired before granted returned
  have listed : agentName ∈ currentAgents (rewarmed before) userId
      (linkedKeys before userId) ↔ current := by
    rw [mem_currentAgents coherent isUser]
    exact and_iff_right known
  rw [alters.held]
  simp only [removes, adds, Set.mem_ofPred_eq, Finset.mem_sort,
    Finset.mem_sdiff, List.mem_toFinset, listed, mem_subjectsOf]
  rfl

theorem exists_held_iff (coherent : Coherent before)
    (isUser : isUserId userId = true) {grantedBy source : String} {now : ℤ}
    {granted : List String}
    (returned : ((syncUserAgents grantedBy source now userId desired).runOn
      before).1 = .ok granted) {agentName : String}
    (known : agentName ∈ before.agents) :
    (∃ other ∈ person before userId,
        Held ((syncUserAgents grantedBy source now userId desired).runOn
          before).2.rows agentName other) ↔
      agentName ∈ desired ∨ before.identities.keysOf userId ≠ ∅ ∧
        Held before.rows agentName userId := by
  have held := held_of_syncUserAgents coherent isUser returned known
  have notKey : userId ∉ before.identities.keysOf userId := by
    intro linked
    obtain ⟨row, -, -, same⟩ := mem_keysOf_iff.1 linked
    have apart := not_isUserId_of_isPlatformKey row.canonical
    rw [same, isUser] at apart
    cases apart
  have self : userId ∈ person before userId := Finset.mem_insert_self _ _
  by_cases wanted : agentName ∈ desired
  · refine iff_of_true ?_ (.inl wanted)
    by_cases current : ∃ other ∈ person before userId, Held before.rows agentName other
    · obtain ⟨other, linked, holds⟩ := current
      refine ⟨other, linked, (held other).2 ⟨.inl holds, ?_⟩⟩
      rintro ⟨⟨-, unwanted⟩, -⟩
      exact unwanted wanted
    · have subject : ∃ id ∈ person before userId, id ∈ before.identities.keysOf userId ∨
            before.identities.keysOf userId = ∅ ∧ id = userId := by
        rcases Finset.eq_empty_or_nonempty
          (before.identities.keysOf userId) with empty | ⟨key, linked⟩
        · exact ⟨userId, self, .inr ⟨empty, rfl⟩⟩
        · exact ⟨key, Finset.mem_insert_of_mem linked, .inl linked⟩
      obtain ⟨id, linked, subject⟩ := subject
      refine ⟨id, linked, (held id).2 ⟨.inr ⟨⟨wanted, current⟩, subject⟩, ?_⟩⟩
      rintro ⟨⟨-, unwanted⟩, -⟩
      exact unwanted wanted
  · constructor
    · rintro ⟨other, linked, holds⟩
      obtain ⟨before | ⟨⟨listed, -⟩, -⟩, kept⟩ := (held other).1 holds
      · have spared : ¬ (other ∈ _ ∨ _ = ∅ ∧ other = userId) :=
          fun subject => kept ⟨⟨⟨other, linked, before⟩, wanted⟩, subject⟩
        rcases mem_person.1 linked with rfl | key
        · refine .inr ⟨?_, before⟩
          intro empty
          exact spared (.inr ⟨empty, rfl⟩)
        · exact absurd (.inl key) spared
      · exact absurd listed wanted
    · rintro (listed | ⟨keys, holds⟩)
      · exact absurd listed wanted
      · refine ⟨userId, self, (held userId).2 ⟨.inl holds, ?_⟩⟩
        rintro ⟨-, key | ⟨empty, -⟩⟩
        · exact notKey key
        · exact keys empty

/-- After any history, a request makes access follow the list exactly if no
grant to the id of a user with linked keys has to go. -/
theorem followsList_iff (reached : system.Reachable before)
    (isUser : isUserId userId = true) {grantedBy source : String} {now : ℤ}
    {granted : List String}
    (returned : ((syncUserAgents grantedBy source now userId desired).runOn
      before).1 = .ok granted) :
    FollowsList userId desired before
        ((syncUserAgents grantedBy source now userId desired).runOn before).2 ↔
      Removable userId desired before := by
  have coherent := cacheCoherent_of_reachable reached
  obtain ⟨listed, alters⟩ := satisfies_syncUserAgents grantedBy source now
    userId desired before granted returned
  have later := keeps_syncUserAgents grantedBy source now userId desired before coherent
  have warm := alters.warm rfl
  have agents : ((syncUserAgents grantedBy source now userId desired).runOn
      before).2.agents = before.agents := alters.agents
  have identities : ((syncUserAgents grantedBy source now userId
      desired).runOn before).2.identities = before.identities :=
    alters.identities
  have same : person ((syncUserAgents grantedBy source now userId
      desired).runOn before).2 userId = person before userId := by
    unfold person
    rw [identities]
  have access {agentName id : String} (known : agentName ∈ before.agents)
      (linked : id ∈ person before userId) :
      ((syncUserAgents grantedBy source now userId desired).runOn
          before).2.allows agentName id = true ↔
        agentName ∈ desired ∨ before.identities.keysOf userId ≠ ∅ ∧
          Held before.rows agentName userId := by
    rw [allows_iff_person later warm isUser (same ▸ linked), same]
    exact exists_held_iff coherent isUser returned known
  constructor
  · intro follows
    by_cases keys : before.identities.keysOf userId = ∅
    · exact .inl keys
    · refine .inr fun agentName known unlisted holds => ?_
      have self : userId ∈ person before userId := Finset.mem_insert_self _ _
      have allowed := (access known self).2 (.inr ⟨keys, holds⟩)
      exact unlisted ((follows.access agentName (agents ▸ known) userId (.inl rfl)).1 allowed)
  · intro removable
    constructor
    · intro agentName known id linked
      rw [agents] at known
      rw [identities] at linked
      rw [access known (mem_person.2 linked)]
      constructor
      · rintro (wanted | ⟨keys, holds⟩)
        · exact wanted
        · by_contra unlisted
          rcases removable with empty | free
          · exact keys empty
          · exact free agentName known unlisted holds
      · exact .inl
    · intro principal apart
      refine alters.others principal ?_
      intro isUserKind subject
      rw [identities] at apart
      obtain ⟨notUser, notKey⟩ := apart isUserKind
      rcases mem_subjectsOf.1 subject with key | ⟨-, self⟩
      · exact notKey key
      · exact notUser self

end Access

section Example

/-- One agent, and a user without keys. -/
def exampleStart : State where
  agents := ["lyra"]
  identities := ⟨[], List.nodup_nil⟩
  users := {}
  rows := []
  cache _ := none

theorem isPlatformKey_exampleKey : isPlatformKey "tg:user:7" = true := by
  decide

def exampleKey : Identity where
  platformKey := "tg:user:7"
  userId := "rx:user:1"
  canonical := isPlatformKey_exampleKey

/-- The key of the user. -/
def exampleTable : IdentityTable where
  rows := [exampleKey]
  unique := List.nodup_singleton _

/-- The agent is granted, and then a key is linked. -/
def grantedFirst : List Event := [.sync "rx:user:1" ["lyra"] "root" "dashboard" 0,
    .link exampleTable {}]

/-- The key is linked, and then the agent is granted. -/
def linkedFirst : List Event := [.link exampleTable {},
    .sync "rx:user:1" ["lyra"] "root" "dashboard" 0]

theorem exampleStart_initial : system.initial exampleStart := fun _ => rfl

/-- The state after the key was linked and the agent granted. -/
def linkedState : State := linkedFirst.foldl State.step exampleStart

/-- An agent that was granted after the key was linked goes. -/
theorem followsList_linkedState : FollowsList "rx:user:1" [] linkedState
      ((syncUserAgents "root" "dashboard" 0 "rx:user:1" []).runOn linkedState).2 := by
  have reached : system.Reachable linkedState :=
    .of_run (.start exampleStart_initial) linkedFirst rfl
  have returned : ((syncUserAgents "root" "dashboard" 0 "rx:user:1" []).runOn
      linkedState).1 = .ok [] := by
    decide +kernel
  exact (followsList_iff reached (by decide) returned).2 (by decide +kernel)

/-- An agent that was granted before the key was linked stays. -/
theorem exists_removed_allowed : ∃ before, system.Reachable before ∧
    ((syncUserAgents "root" "dashboard" 0 "rx:user:1" []).runOn before).1 = .ok [] ∧
    ((syncUserAgents "root" "dashboard" 0 "rx:user:1" []).runOn
      before).2.allows "lyra" "rx:user:1" = true := by
  refine ⟨_, .of_run (.start exampleStart_initial) grantedFirst rfl, ?_⟩
  decide +kernel

end Example

end AdminGrants

end AgentGrants

end RoxabiFactory
