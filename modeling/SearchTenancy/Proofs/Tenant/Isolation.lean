import SearchTenancy.Proofs.Tenant.Runs

/-!
# Tenants do not reach each other

Names are plain concatenations, and the backend takes a name for an alias or for an
index. What keeps tenants apart is the part of a name in front of the first separator,
its owner. An alias and the indices behind it have one owner (`Memory.Homed`), and a
request changes only what its own owner has (`Change.confined`). A tenant whose id has
no separator is the owner of all its names, so two such tenants share nothing.
-/

namespace SearchTenancy

/-- The part of a name in front of the first separator. -/
def owner (name : String) : List Char := name.toList.takeWhile (· ≠ '_')

/-- What follows a separator does not matter. -/
theorem owner_append {first : String} (separated : '_' ∈ first.toList) (rest : String) :
    owner (first ++ rest) = owner first := by
  unfold owner
  rw [String.toList_append, List.takeWhile_append, if_neg]
  intro all
  -- If all of it were taken, its separator would be.
  have mem : '_' ∈ first.toList.takeWhile (· ≠ '_') := by
    rw [List.takeWhile_prefix _ |>.eq_of_length all]
    exact separated
  have kept := List.all_eq_true.1 List.all_takeWhile '_' mem
  simp at kept

theorem separated_physicalId (tenant name : String) : '_' ∈ (physicalId tenant name).toList := by
  simp [physicalId]

/-- All names of a tenant have one owner. -/
theorem owner_physicalId (tenant name other : String) :
    owner (physicalId tenant name) = owner (physicalId tenant other) := by
  have separated : '_' ∈ (tenant ++ "_").toList := by simp
  unfold physicalId
  rw [owner_append separated, owner_append separated]

/-- A tenant whose id has no separator is the owner of its names. -/
theorem owner_of_plain {tenant : String} (plain : '_' ∉ tenant.toList) (name : String) :
    owner (physicalId tenant name) = tenant.toList := by
  have separated : '_' ∈ (tenant ++ "_").toList := by simp
  have all : ∀ c ∈ tenant.toList, decide (c ≠ '_') = true := by
    intro c mem
    rw [decide_eq_true_eq]
    rintro rfl
    exact plain mem
  unfold physicalId
  rw [owner_append separated]
  unfold owner
  rw [String.toList_append, List.takeWhile_append_of_pos all]
  simp

/-- A generation has the owner of the name that it is created for. -/
theorem owner_generationName {physical : String} (separated : '_' ∈ physical.toList) (now : Instant) :
    owner (generationName physical now) = owner physical := by
  unfold generationName
  simp only [String.append_assoc]
  exact owner_append separated _

namespace Memory

/-- An alias has the owner of the indices that it stands for. -/
def Homed (memory : Memory) : Prop := ∀ name index, StandsFor memory.aliases name index → owner index = owner name

variable {memory ready : Memory} {index : TenantIndex} {now : Instant} {act : Act}

theorem homed_empty : Homed .empty := fun _ _ ⟨_, found, _⟩ => (nomatch found)

/-- A name is resolved to an index of its owner. -/
theorem Homed.owner_of_resolve (h : memory.Homed) {name concrete : String}
    (resolved : memory.resolve name = some concrete) : owner concrete = owner name := by
  unfold resolve at resolved
  cases found : memory.aliases.get? name with
  | some behind =>
    rw [found] at resolved
    exact h name concrete ⟨behind, found, Dict.mem_keys.1 (List.mem_of_head? resolved)⟩
  | none =>
    simp only [found] at resolved
    split at resolved
    · cases resolved; rfl
    · cases resolved

/-! ## What a request changes -/

/-- Nothing has changed outside the names of an owner. -/
def Confined (home : List Char) (before after : Memory) : Prop :=
  ∀ name, owner name ≠ home →
    after.aliases.get? name = before.aliases.get? name ∧ after.indices.get? name = before.indices.get? name

theorem Confined.refl (home : List Char) (memory : Memory) : Confined home memory memory := fun _ _ => ⟨rfl, rfl⟩

theorem Confined.trans {home : List Char} {before middle after : Memory} (first : Confined home before middle)
    (rest : Confined home middle after) : Confined home before after := fun name other =>
  ⟨(rest name other).1.trans (first name other).1, (rest name other).2.trans (first name other).2⟩

theorem ChangesOnly.confined {before after : Memory} {concrete : String} (inside : ChangesOnly concrete before after)
    {home : List Char} (own : owner concrete = home) : Confined home before after := by
  refine fun name other => ⟨by rw [inside.aliases], inside.others name ?_⟩
  rintro rfl
  exact other own

theorem ChangesOnly.homed {before after : Memory} {concrete : String} (inside : ChangesOnly concrete before after)
    (h : before.Homed) : after.Homed := by
  unfold Homed
  rw [inside.aliases]
  exact h

theorem Ready.homed (h : memory.Homed) {physical : String} (separated : '_' ∈ physical.toList)
    (made : Ready memory physical now ready) : ready.Homed := by
  cases made with
  | there _ => exact h
  | created unset unused =>
    rintro name index ⟨behind, found, mem⟩
    rw [provision_aliases unset] at found
    split at found
    · cases found
      subst_vars
      rw [Dict.contains_eq, Dict.get?_insert] at mem
      split at mem
      · subst_vars
        exact owner_generationName separated now
      · cases mem
    · exact h name index ⟨behind, found, mem⟩

theorem Ready.confined {physical : String} (separated : '_' ∈ physical.toList)
    (made : Ready memory physical now ready) : Confined (owner physical) memory ready := by
  cases made with
  | there _ => exact .refl _ _
  | created unset unused =>
    intro name other
    have notAlias : physical ≠ name := by
      rintro rfl
      exact other rfl
    have notGeneration : generationName physical now ≠ name := by
      rintro rfl
      exact other (owner_generationName separated now)
    rw [provision_aliases unset, if_neg notAlias, provision_indices, if_neg notGeneration]
    exact ⟨rfl, rfl⟩

/-- A change keeps to the names of its owner, and leaves aliases with one owner each. -/
theorem Change.confined (h : memory.Sound) (homed : memory.Homed) {after : Memory}
    (change : Change memory index now act after) :
    Confined (owner index.physical) memory after ∧ after.Homed := by
  have separated : '_' ∈ index.physical.toList := separated_physicalId ..
  have written {ready after : Memory} {concrete : String} (made : Ready memory index.physical now ready)
      (resolved : ready.resolve index.physical = some concrete) (inside : ChangesOnly concrete ready after) :
      Confined (owner index.physical) memory after ∧ after.Homed := by
    have home := made.homed homed separated
    exact ⟨(made.confined separated).trans (inside.confined (home.owner_of_resolve resolved)), inside.homed home⟩
  cases change with
  | put objectId value body made resolved => exact written made resolved (.store ..)
  | batch made resolved deletes => exact written made resolved (.applyEntries ..)
  | save made resolved found settles => exact written made resolved (.modify ..)
  | @delete concrete objectId resolved =>
    have inside : ChangesOnly concrete memory (memory.modify concrete (·.remove objectId)) := .modify ..
    exact ⟨inside.confined (homed.owner_of_resolve resolved), inside.homed homed⟩
  | @move behind destination found =>
    have own : owner (physicalId index.tenant destination) = owner index.physical := owner_physicalId ..
    refine ⟨fun name other => ⟨Dict.get?_insert_of_ne _ _ ?_, rfl⟩, ?_⟩
    · rintro rfl
      exact other own
    · rintro name generation ⟨set, got, mem⟩
      rw [Dict.get?_insert] at got
      split at got
      · cases got
        subst_vars
        rw [own]
        exact homed index.physical generation ⟨behind, found, mem⟩
      · exact homed name generation ⟨set, got, mem⟩
  | @drop behind found =>
    -- Only generations of the owner are deleted, so an alias of another owner loses nothing.
    have own : ∀ generation ∈ behind.keys, owner generation = owner index.physical := fun generation mem =>
      homed index.physical generation ⟨behind, found, Dict.mem_keys.1 mem⟩
    have stands := without_standsFor h.consistent behind.keys
    refine ⟨fun name other => ⟨?_, ?_⟩, fun name generation standing => ?_⟩
    · refine (h.consistent.without behind.keys).get?_congr h.consistent fun generation => ?_
      rw [stands]
      refine ⟨And.left, fun standing => ⟨standing, fun mem => other ?_⟩⟩
      rw [← homed name generation standing]
      exact own generation mem
    · rw [without_indices, if_neg]
      exact fun mem => other (own name mem)
    · exact homed name generation ((stands name generation).1 standing).1

theorem Homed.next (h : memory.Sound) (homed : memory.Homed) (request : Request) :
    Confined (owner request.index.physical) memory (memory.next request) ∧ (memory.next request).Homed := by
  rcases next_cases h request with same | ⟨-, change⟩
  · rw [same]
    exact ⟨.refl _ _, homed⟩
  · exact change.confined h homed

theorem Homed.after (h : memory.Sound) (homed : memory.Homed) (run : List Request) : (memory.after run).Homed := by
  induction run generalizing memory with
  | nil => exact homed
  | cons request rest ih => exact ih (h.next request) (homed.next h request).2

/-- A name of another owner stands for the same as before. -/
theorem Confined.sameView {home : List Char} {before after : Memory} (confined : Confined home before after)
    (homed : before.Homed) {name : String} (other : owner name ≠ home) : SameView name before after := by
  obtain ⟨aliases, indices⟩ := confined name other
  refine ⟨aliases, ?_, fun index resolved => (confined index ?_).2⟩
  · unfold resolve
    rw [aliases, Dict.contains_eq, indices, Dict.contains_eq]
  · rw [homed.owner_of_resolve resolved]
    exact other

/-- No request of one tenant changes what a name of another tenant stands for, nor anything that the
other tenant reads, if the ids of both have no separator. -/
theorem tenant_isolation {one other : String} (plain : '_' ∉ one.toList) (plain' : '_' ∉ other.toList)
    (different : one ≠ other) (run : List Request) (request : Request) (own : request.index.tenant = one)
    (name : String) :
    let before := empty.after run
    let after := before.next request
    let physical := physicalId other name
    after.aliases.get? physical = before.aliases.get? physical ∧ after.resolve physical = before.resolve physical ∧
      (∀ generation, StandsFor before.aliases physical generation ∨ before.resolve physical = some generation →
        after.indices.get? generation = before.indices.get? generation) ∧
      ∀ reader : Request, reader.index.tenant = other → reader.index.name = name → reader.act.isRead →
        after.answer reader = before.answer reader := by
  intro before after physical
  have homed : before.Homed := homed_empty.after sound_empty run
  have foreign : owner physical ≠ owner request.index.physical := by
    have ours : owner request.index.physical = one.toList := by
      rw [TenantIndex.physical, own]
      exact owner_of_plain plain _
    have theirs : owner physical = other.toList := owner_of_plain plain' name
    rw [ours, theirs]
    exact fun same => different (String.toList_inj.1 same).symm
  have confined := (homed.next (sound_empty.after run) request).1
  have view := confined.sameView homed foreign
  refine ⟨view.aliases, view.resolve, fun generation behind => ?_, fun reader tenant called reads => ?_⟩
  · have own : owner generation = owner physical := by
      rcases behind with stands | resolved
      · exact homed physical generation stands
      · exact homed.owner_of_resolve resolved
    exact (confined generation (own ▸ foreign)).2
  · refine answer_congr reads ?_
    rw [TenantIndex.physical, tenant, called]
    exact view

/-- A tenant drops an index that is called like one of another tenant, who still reads what was stored. -/
theorem isolation_of_equal_names :
    ((empty.after [.atEpoch "acme" "beta_products" (.put (some "1") (.obj [("title", .str "Lamp")])),
          .atEpoch "beta" "products" (.put (some "1") (.obj [("title", .str "Chair")]))]).next
        (.atEpoch "acme" "beta_products" .drop)).answer (.atEpoch "beta" "products" (.get "1")) =
      .ok (.obj [("objectID", .str "1"), ("title", .str "Chair")]) := by
  have kept := @tenant_isolation "acme" "beta" (by decide) (by decide) (by decide)
    [.atEpoch "acme" "beta_products" (.put (some "1") (.obj [("title", .str "Lamp")])),
      .atEpoch "beta" "products" (.put (some "1") (.obj [("title", .str "Chair")]))]
    (.atEpoch "acme" "beta_products" .drop) rfl "products"
  rw [kept.2.2.2 (.atEpoch "beta" "products" (.get "1")) rfl rfl rfl]
  rfl

end Memory

end SearchTenancy
