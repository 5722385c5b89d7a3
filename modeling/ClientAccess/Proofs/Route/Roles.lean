import ClientAccess.Proofs.Navigation.Hops

/-! The roles of a chain. They are collected record by record from the outermost in, each when it is
met first, so records further in add to the end of the list. The guard asks whether a role is in
the list, so a list that is not empty only lets in more visitors when it grows. -/
namespace ClientAccess.Chain

variable {chain grown : Chain} {seen known : List String} {role : String}

/-- The roles known after some have been seen: all of them, in the order in which they were seen
first. -/
structure Collects (seen known : List String) : Prop where
  mem_iff : ∀ role, role ∈ known ↔ role ∈ seen
  ordered : known.Pairwise fun a b => seen.idxOf a < seen.idxOf b

theorem Collects.nodup (h : Collects seen known) : known.Nodup := by
  refine h.ordered.imp fun {a b} hlt => ?_
  rintro rfl
  exact Nat.lt_irrefl _ hlt

theorem Collects.addNew (h : Collects seen known) (role : String) :
    Collects (seen ++ [role]) (addNew known role) := by
  -- Where a role was seen first does not change by what is seen later.
  have hfirst : ∀ a ∈ known, (seen ++ [role]).idxOf a = seen.idxOf a := by
    intro a ha
    rw [List.idxOf_append, if_pos ((h.mem_iff a).1 ha)]
  have hkept : known.Pairwise fun a b => (seen ++ [role]).idxOf a < (seen ++ [role]).idxOf b := by
    refine h.ordered.imp_of_mem fun {a b} ha hb hlt => ?_
    rwa [hfirst a ha, hfirst b hb]
  unfold Chain.addNew
  by_cases hrole : role ∈ known
  · rw [if_pos (List.contains_iff_mem.2 hrole)]
    refine ⟨fun other => ?_, hkept⟩
    rw [h.mem_iff, List.mem_append, List.mem_singleton]
    constructor
    · exact .inl
    · rintro (hseen | rfl)
      · exact hseen
      · exact (h.mem_iff other).1 hrole
  · have hnew : role ∉ seen := fun hseen => hrole ((h.mem_iff role).2 hseen)
    rw [if_neg fun hcontains => hrole (List.contains_iff_mem.1 hcontains)]
    refine ⟨fun other => by rw [List.mem_append, List.mem_append, h.mem_iff], ?_⟩
    rw [List.pairwise_append]
    refine ⟨hkept, List.pairwise_singleton _ role, fun a ha b hb => ?_⟩
    obtain rfl := List.mem_singleton.1 hb
    calc
      (seen ++ [b]).idxOf a = seen.idxOf a := hfirst a ha
      _ < seen.length := List.idxOf_lt_length_iff.2 ((h.mem_iff a).1 ha)
      _ ≤ (seen ++ [b]).idxOf b := by
        rw [List.idxOf_append, if_neg hnew]
        exact Nat.le_add_left _ _

theorem Collects.foldl (h : Collects seen known) (roles : List String) :
    Collects (seen ++ roles) (roles.foldl Chain.addNew known) := by
  induction roles generalizing seen known with
  | nil => rwa [List.append_nil]
  | cons first rest ih =>
    have hrest := ih (h.addNew first)
    rwa [List.append_assoc, List.singleton_append] at hrest

theorem collects_requiredRoles (chain : Chain) :
    Collects (chain.flatMap (·.roles)) chain.requiredRoles :=
  Collects.foldl ⟨fun _ => Iff.rfl, .nil⟩ _

theorem mem_requiredRoles : role ∈ chain.requiredRoles ↔ role ∈ chain.flatMap (·.roles) :=
  (collects_requiredRoles chain).mem_iff role

theorem prefix_addNew (known : List String) (role : String) : known <+: addNew known role := by
  unfold addNew
  split
  · exact List.prefix_refl known
  · exact List.prefix_append known [role]

theorem prefix_foldl_addNew (known roles : List String) : known <+: roles.foldl addNew known := by
  induction roles generalizing known with
  | nil => exact List.prefix_refl known
  | cons first rest ih => exact (prefix_addNew known first).trans (ih (addNew known first))

theorem prefix_requiredRoles_append (chain more : Chain) :
    chain.requiredRoles <+: (chain ++ more).requiredRoles := by
  rw [requiredRoles, requiredRoles, List.flatMap_append, List.foldl_append]
  exact prefix_foldl_addNew _ _

/-- A chain with more in it: records have been added anywhere, and roles to the lists of those that
were there. -/
inductive Grows : Chain → Chain → Prop
  | nil : Grows [] []
  | record {chain grown : Chain} (added : Record) (more : Grows chain grown) :
    Grows chain (added :: grown)
  | roles {chain grown : Chain} {record : Record} {roles : List String}
    (kept : record.roles ⊆ roles) (more : Grows chain grown) :
    Grows (record :: chain) ({ record with roles := roles } :: grown)

theorem Grows.exists_record (h : chain.Grows grown) {record : Record} (hrecord : record ∈ chain) :
    ∃ roles, record.roles ⊆ roles ∧ { record with roles := roles } ∈ grown := by
  induction h with
  | nil => cases hrecord
  | record added more ih =>
    obtain ⟨roles, hkept, hmem⟩ := ih hrecord
    exact ⟨roles, hkept, List.mem_cons_of_mem _ hmem⟩
  | @roles chain grown first wider kept more ih =>
    obtain rfl | hrecord := List.mem_cons.1 hrecord
    · exact ⟨wider, kept, List.mem_cons_self⟩
    · obtain ⟨roles, hkept, hmem⟩ := ih hrecord
      exact ⟨roles, hkept, List.mem_cons_of_mem _ hmem⟩

theorem Grows.mem_requiredRoles (h : chain.Grows grown) (hrole : role ∈ chain.requiredRoles) :
    role ∈ grown.requiredRoles := by
  rw [Chain.mem_requiredRoles, List.mem_flatMap] at hrole ⊢
  obtain ⟨record, hrecord, hlisted⟩ := hrole
  obtain ⟨roles, hkept, hmem⟩ := h.exists_record hrecord
  exact ⟨_, hmem, hkept hlisted⟩

theorem Grows.requiresAuth (h : chain.Grows grown) (hauth : chain.requiresAuth = true) :
    grown.requiresAuth = true := by
  rw [Chain.requiresAuth, List.any_eq_true] at hauth ⊢
  obtain ⟨record, hrecord, hneeds⟩ := hauth
  obtain ⟨roles, -, hmem⟩ := h.exists_record hrecord
  exact ⟨_, hmem, hneeds⟩

theorem Grows.permitted (h : chain.Grows grown) (hne : chain.requiredRoles ≠ [])
    {who : Option String} (hpermits : permits chain.requiredRoles who = true) :
    permits grown.requiredRoles who = true := by
  rw [permits_iff] at hpermits ⊢
  intro _
  obtain ⟨role, hlisted, hwho⟩ := hpermits hne
  exact ⟨role, h.mem_requiredRoles hlisted, hwho⟩

theorem Grows.denied {g : Guard} {who : Snapshot} {place : Location} (h : chain.Grows grown)
    (hne : chain.requiredRoles ≠ []) (hdenied : g.decide ⟨place, grown⟩ who = .toDefault) :
    g.decide ⟨place, chain⟩ who = .toDefault := by
  rw [Guard.decide_eq_toDefault_iff] at hdenied ⊢
  obtain ⟨hsession, hrole⟩ := hdenied
  refine ⟨fun hauth => hsession (h.requiresAuth hauth), ?_⟩
  have hwider : permits grown.requiredRoles who.role = false := hrole
  cases hpermits : permits chain.requiredRoles who.role with
  | false => exact hpermits
  | true =>
    rw [h.permitted hne hpermits] at hwider
    cases hwider

/-- The roles of a chain are those that its records list, each once, in the order of their first
occurrence from the outermost record in, and a record further in leaves them at the front. Once there
are any, a role among them stays permitted whatever records and roles are added: whom the guard then
denies, it denied before. -/
theorem requiredRoles_union (chain : Chain) :
    chain.requiredRoles.Nodup ∧
    (∀ role, role ∈ chain.requiredRoles ↔ ∃ record ∈ chain, role ∈ record.roles) ∧
    chain.requiredRoles.Pairwise (fun a b =>
      (chain.flatMap (·.roles)).idxOf a < (chain.flatMap (·.roles)).idxOf b) ∧
    (∀ record : Record, chain.requiredRoles <+: (chain ++ [record]).requiredRoles) ∧
    ∀ grown : Chain, chain.Grows grown → chain.requiredRoles ≠ [] →
      (∀ role, permits chain.requiredRoles (some role) = true →
        permits grown.requiredRoles (some role) = true) ∧
      ∀ (g : Guard) (place : Location) (who : Snapshot),
        g.decide ⟨place, grown⟩ who = .toDefault → g.decide ⟨place, chain⟩ who = .toDefault := by
  have hcollects := collects_requiredRoles chain
  refine ⟨hcollects.nodup, fun role => ?_, hcollects.ordered,
    fun record => prefix_requiredRoles_append chain [record], fun grown hgrows hne => ?_⟩
  · rw [mem_requiredRoles, List.mem_flatMap]
  · exact ⟨fun role hpermits => hgrows.permitted hne hpermits,
      fun g place who hdenied => hgrows.denied hne hdenied⟩

def office : Chain := [⟨"/office", none, false, ["admin", "ops"], none⟩]

def audit : Chain :=
  [⟨"/", none, true, ["staff"], none⟩, ⟨"/office", none, false, ["ops", "root", "admin"], none⟩,
    ⟨"/office/audit", none, false, ["auditor", "admin", "auditor"], none⟩]

theorem requiredRoles_union_audit :
    office.Grows audit ∧ office.requiredRoles ≠ [] ∧
    audit.requiredRoles = ["staff", "ops", "root", "admin", "auditor"] ∧ audit.requiredRoles.Nodup ∧
    permits audit.requiredRoles (some "ops") = true ∧
    Guard.standard.decide ⟨⟨"/office/audit", []⟩, audit⟩
      ⟨some "t", some ⟨"1", some "ops", .empty⟩⟩ ≠ .toDefault := by
  have hgrows : office.Grows audit :=
    .record _ (.roles (by decide) (.record _ .nil))
  have hne : office.requiredRoles ≠ [] := by decide
  obtain ⟨-, -, -, -, hoffice⟩ := requiredRoles_union office
  obtain ⟨hpermits, hdenied⟩ := hoffice audit hgrows hne
  refine ⟨hgrows, hne, by decide, (requiredRoles_union audit).1, hpermits "ops" (by decide), ?_⟩
  intro h
  exact absurd (hdenied _ _ _ h) (by decide)

end ClientAccess.Chain
