/-
Orchagent/TunnelDecapRun.lean

The termination entries of the tunnels are tracked exactly (`tunnel_terms_tracked`).

What a tunnel has (`Has`) changes in three ways: entries go (`Inv.dropped`), one comes
(`Inv.createTerm`), and a tunnel comes or goes without entries.  A SET lets those go that it does
not name and then lets the others come; whether it does all of that tells the list it ends with.
-/
import Sonic.Lib.Transition
import Sonic.Lib.TreeMap
import Sonic.Orchagent.TunnelDecapOrch

namespace Orchagent.TunnelDecap

open Std (ExtTreeMap)
open Swss
open Transition (Run Guarded)
open TreeMap (getElem?_insert getElem?_erase getElem?_modify mem_iff not_mem_iff)

/-! ### What should hold -/

/-- An entry is recorded of the tunnel `key`, which is the object `tunnel_id`. -/
def Has (s : St) (key : String) (tunnel_id : sai_object_id_t) (t : TunnelTermEntry) : Prop :=
  ∃ tunnel_info, s.tunnelTable[key]? = some tunnel_info ∧ tunnel_info.tunnel_id = tunnel_id ∧
    t ∈ tunnel_info.tunnel_term_info

/-- A tunnel has an address. -/
def Ends (s : St) (key : String) (ip : IpAddress) : Prop :=
  ∃ tunnel_id t, Has s key tunnel_id t ∧ t.ip_address = ip

/-- The ASIC has the tunnels of the table with their overlay interfaces, and no others. -/
structure Objects (s : St) : Prop where
  tunnels : ∀ id overlay, (∃ x, s.asic.tunnels[id]? = some x ∧ x.overlay_interface = overlay) ↔
    ∃ (key : String) (tunnel_info : TunnelEntry), s.tunnelTable[key]? = some tunnel_info ∧
      tunnel_info.tunnel_id = id ∧ tunnel_info.overlay_intf_id = overlay
  interfaces : ∀ id, id ∈ s.asic.router_interfaces ↔
    ∃ (key : String) (tunnel_info : TunnelEntry), s.tunnelTable[key]? = some tunnel_info ∧
      tunnel_info.overlay_intf_id = id
  /-- no two tunnels have one object -/
  apart : ∀ {key key' : String} {e e' : TunnelEntry}, s.tunnelTable[key]? = some e →
    s.tunnelTable[key']? = some e' →
      e.tunnel_id = e'.tunnel_id ∨ e.overlay_intf_id = e'.overlay_intf_id → key = key'

/-- The records agree with each other and with the ASIC, which has no object besides. -/
structure Sound (s : St) : Prop extends Objects s where
  existing : ∀ ip, ip ∈ s.existingIps ↔ ∃ key, Ends s key ip
  disjoint : ∀ {key tunnel_id t key' tunnel_id' t'}, Has s key tunnel_id t →
    Has s key' tunnel_id' t' → t.ip_address = t'.ip_address → key = key' ∧ t = t'
  nodup : ∀ {key : String} {tunnel_info : TunnelEntry}, s.tunnelTable[key]? = some tunnel_info →
    tunnel_info.tunnel_term_info.Nodup
  terms : ∀ (id : sai_object_id_t) (x : TermTableEntry), s.asic.terms[id]? = some x ↔
    ∃ key, Has s key x.action_tunnel_id ⟨id, x.dst_ip⟩

/-- The fields of a SET, if they are all accepted. -/
def fieldsOf (t : KeyOpFieldsValuesTuple) : Option Fields :=
  t.kfvFieldsValues.foldlM readField .empty

/-- The ASIC removes what it is asked to. -/
def Sai.Removes (sai : Sai) : Prop :=
  (∀ id, sai.remove_tunnel_term_table_entry id = true) ∧ sai.remove_tunnel = true ∧
    sai.remove_router_interface = true

/-- What a task should do.  A SET that is not valid does nothing; one of a tunnel that exists, if
it succeeds, leaves it the new addresses but those of other tunnels; and a DEL succeeds if the
ASIC removes what it is asked to. -/
def Faithful (s : St) (e : Task) : Prop :=
  (e.kco.kfvOp = SET_COMMAND → fieldsOf e.kco = none → next s e = s) ∧
  (e.kco.kfvOp = SET_COMMAND → e.kco.kfvKey ∈ s.tunnelTable →
    (handleTask s e.sai e.kco).2 = true → ∀ f, fieldsOf e.kco = some f →
      (∃ i ∈ e.kco.kfvFieldsValues, i.1 = "dst_ip") →
        ∀ ip, Ends (next s e) e.kco.kfvKey ip ↔
          ip ∈ f.ip_addresses.m_ips ∧ ∀ key ≠ e.kco.kfvKey, ¬ Ends s key ip) ∧
  (e.kco.kfvOp = DEL_COMMAND → e.kco.kfvKey ∈ s.tunnelTable → (e.sai 0).Removes →
    e.kco.kfvKey ∉ (next s e).tunnelTable)

/-! ### The condition -/

/-- A field is accepted. -/
def accepted (i : FieldValueTuple) : Bool := (readField .empty i).isSome

/-- A field is applied to a tunnel that exists. -/
def Applied (i : FieldValueTuple) : Prop :=
  i.1 = "dst_ip" ∨ i.1 = "dscp_mode" ∨ i.1 = "ecn_mode" ∨ i.1 = "ttl_mode"

/-- The condition on a SET of a tunnel that exists: no removal of an entry is refused, and before
a field that is not accepted none is applied. -/
def CalmUpdate (e : Task) : Prop :=
  (∀ n id, (e.sai n).remove_tunnel_term_table_entry id = true) ∧
    ((∀ i ∈ e.kco.kfvFieldsValues, accepted i) ∨
      ∀ i ∈ e.kco.kfvFieldsValues.takeWhile accepted, ¬ Applied i)

/-- The condition on a SET of a tunnel that does not exist: an overlay interface gets its tunnel. -/
def CalmCreate (sai : Sai) : Prop :=
  sai.create_router_interface = true → sai.create_tunnel = true

/-- The condition on a DEL: the first entry is not removed, or all are, and with the tunnel its
overlay interface. -/
def CalmRemove (sai : Sai) (info : List TunnelTermEntry) : Prop :=
  (∃ t ∈ info.head?, sai.remove_tunnel_term_table_entry t.tunnel_term_id = false) ∨
    (∀ t ∈ info, sai.remove_tunnel_term_table_entry t.tunnel_term_id = true) ∧
      (sai.remove_tunnel = true → sai.remove_router_interface = true)

def Calm (s : St) (e : Task) : Prop :=
  (e.kco.kfvOp = SET_COMMAND → e.kco.kfvKey ∈ s.tunnelTable → CalmUpdate e) ∧
  (e.kco.kfvOp = SET_COMMAND → e.kco.kfvKey ∉ s.tunnelTable → fieldsOf e.kco ≠ none →
    CalmCreate (e.sai 0)) ∧
  (e.kco.kfvOp = DEL_COMMAND → ∀ tunnel_info, s.tunnelTable[e.kco.kfvKey]? = some tunnel_info →
    CalmRemove (e.sai 0) tunnel_info.tunnel_term_info)

/-! ### The invariant -/

/-- The objects of the ASIC have numbers below the next one. -/
structure Below (asic : Asic) : Prop where
  terms : ∀ id x, asic.terms[id]? = some x → id < asic.next
  tunnels : ∀ id x, asic.tunnels[id]? = some x → id < asic.next
  interfaces : ∀ id ∈ asic.router_interfaces, id < asic.next

structure Inv (s : St) : Prop extends Sound s where
  below : Below s.asic

variable {s s' : St} {key key' : String} {tunnel_id : sai_object_id_t} {t t' : TunnelTermEntry}
  {e e' : TunnelEntry} {ip : IpAddress} {sai : Sai}

theorem inv_init : Inv init := by
  have hnone : ∀ key tunnel_id t, ¬ Has init key tunnel_id t := by
    rintro key tunnel_id t ⟨e, he, -⟩
    exact absurd he (by simp [init])
  refine ⟨⟨⟨?_, ?_, ?_⟩, ?_, ?_, ?_, ?_⟩, ⟨?_, ?_, ?_⟩⟩
  · refine fun id overlay => iff_of_false (by simp [init]) ?_
    rintro ⟨key, e, he, -⟩
    exact absurd he (by simp [init])
  · refine fun id => iff_of_false (Finset.notMem_empty id) ?_
    rintro ⟨key, e, he, -⟩
    exact absurd he (by simp [init])
  · intro key key' e e' he
    exact absurd he (by simp [init])
  · refine fun ip => iff_of_false (Finset.notMem_empty ip) ?_
    rintro ⟨key, tunnel_id, t, hhas, -⟩
    exact hnone _ _ _ hhas
  · intro key tunnel_id t key' tunnel_id' t' h
    exact absurd h (hnone _ _ _)
  · intro key e he
    exact absurd he (by simp [init])
  · refine fun id x => iff_of_false (by simp [init]) ?_
    rintro ⟨key, hhas⟩
    exact hnone _ _ _ hhas
  · intro id x hx
    exact absurd hx (by simp [init])
  · intro id x hx
    exact absurd hx (by simp [init])
  · intro id hid
    exact absurd hid (Finset.notMem_empty id)

theorem has_of_lookup (he : s.tunnelTable[key]? = some e) :
    Has s key tunnel_id t ↔ e.tunnel_id = tunnel_id ∧ t ∈ e.tunnel_term_info := by
  constructor
  · rintro ⟨e', he', hrest⟩
    rw [he] at he'
    obtain rfl := Option.some.inj he'
    exact hrest
  · exact fun hrest => ⟨e, he, hrest⟩

theorem has_congr (h : s'.tunnelTable[key]? = s.tunnelTable[key]?) :
    Has s' key tunnel_id t ↔ Has s key tunnel_id t := by
  unfold Has
  rw [h]

theorem ends_congr (h : s'.tunnelTable[key]? = s.tunnelTable[key]?) :
    Ends s' key ip ↔ Ends s key ip := by
  unfold Ends Has
  rw [h]

/-! ### Entries go -/

/-- Some entries have gone from the ASIC, and their addresses are free. -/
structure Dropped (s s' : St) (gone : TunnelTermEntry → Prop) : Prop where
  existing : ∀ ip, ip ∈ s'.existingIps ↔ ip ∈ s.existingIps ∧ ∀ t, gone t → t.ip_address ≠ ip
  terms : ∀ (id : sai_object_id_t) (x : TermTableEntry), s'.asic.terms[id]? = some x ↔
    s.asic.terms[id]? = some x ∧ ∀ t, gone t → t.tunnel_term_id ≠ id
  next : s'.asic.next = s.asic.next
  tunnels : s'.asic.tunnels = s.asic.tunnels
  interfaces : s'.asic.router_interfaces = s.asic.router_interfaces

theorem Dropped.none : Dropped s s fun _ => False :=
  ⟨fun _ => ⟨fun h => ⟨h, nofun⟩, And.left⟩, fun _ _ => ⟨fun h => ⟨h, nofun⟩, And.left⟩, rfl, rfl,
    rfl⟩

theorem Dropped.trans {s'' : St} {gone gone' : TunnelTermEntry → Prop} (h : Dropped s s' gone)
    (h' : Dropped s' s'' gone') : Dropped s s'' fun t => gone t ∨ gone' t := by
  refine ⟨fun ip => ?_, fun id x => ?_, h'.next.trans h.next, h'.tunnels.trans h.tunnels,
    h'.interfaces.trans h.interfaces⟩
  · rw [h'.existing, h.existing]
    constructor
    · rintro ⟨⟨hip, hgone⟩, hgone'⟩
      exact ⟨hip, fun t ht => ht.elim (hgone t) (hgone' t)⟩
    · rintro ⟨hip, hboth⟩
      exact ⟨⟨hip, fun t ht => hboth t (.inl ht)⟩, fun t ht => hboth t (.inr ht)⟩
  · rw [h'.terms, h.terms]
    constructor
    · rintro ⟨⟨hx, hgone⟩, hgone'⟩
      exact ⟨hx, fun t ht => ht.elim (hgone t) (hgone' t)⟩
    · rintro ⟨hx, hboth⟩
      exact ⟨⟨hx, fun t ht => hboth t (.inl ht)⟩, fun t ht => hboth t (.inr ht)⟩

theorem Dropped.congr {gone gone' : TunnelTermEntry → Prop} (h : Dropped s s' gone)
    (heq : ∀ t, gone t ↔ gone' t) : Dropped s s' gone' := by
  obtain rfl : gone = gone' := funext fun t => propext (heq t)
  exact h

theorem dropped_dropTerm : Dropped s (dropTerm s t) (· = t) := by
  refine ⟨fun ip => ?_, fun id x => ?_, rfl, rfl, rfl⟩
  · show ip ∈ s.existingIps.erase t.ip_address ↔ _
    rw [Finset.mem_erase, and_comm]
    refine and_congr_right fun _ => ⟨?_, fun h => (h t rfl).symm⟩
    rintro hne _ rfl
    exact hne.symm
  · show (s.asic.terms.erase t.tunnel_term_id)[id]? = some x ↔ _
    rw [getElem?_erase]
    split_ifs with hid
    · exact iff_of_false nofun fun h => h.2 t rfl hid
    · refine ⟨fun hx => ⟨hx, ?_⟩, And.left⟩
      rintro _ rfl
      exact hid

/-- The addresses of one tunnel have become `f` of them. -/
def Modified (s s' : St) (key : String) (f : List TunnelTermEntry → List TunnelTermEntry) : Prop :=
  ∀ key', s'.tunnelTable[key']? = if key = key' then
    s.tunnelTable[key']?.map fun e => { e with tunnel_term_info := f e.tunnel_term_info }
    else s.tunnelTable[key']?

theorem modified_modifyInfo {f : List TunnelTermEntry → List TunnelTermEntry} :
    Modified s (modifyInfo s key f) key f := fun _ => getElem?_modify

theorem Modified.trans {s'' : St} {f g : List TunnelTermEntry → List TunnelTermEntry}
    (h : Modified s s' key f) (h' : Modified s' s'' key g) :
    Modified s s'' key fun l => g (f l) := by
  intro key'
  rw [h' key', h key']
  split_ifs
  · cases s.tunnelTable[key']? <;> rfl
  · rfl

section Modified

variable {f : List TunnelTermEntry → List TunnelTermEntry}

theorem Modified.self (h : Modified s s' key f) (he : s.tunnelTable[key]? = some e) :
    s'.tunnelTable[key]? = some { e with tunnel_term_info := f e.tunnel_term_info } := by
  rw [h key, if_pos rfl, he]
  rfl

theorem Modified.other (h : Modified s s' key f) (hne : key' ≠ key) :
    s'.tunnelTable[key']? = s.tunnelTable[key']? := by
  rw [h key', if_neg hne.symm]

/-- The tunnels keep their objects. -/
theorem Modified.exists_iff (h : Modified s s' key f)
    (P : sai_object_id_t → sai_object_id_t → Prop) :
    (∃ e, s'.tunnelTable[key']? = some e ∧ P e.tunnel_id e.overlay_intf_id) ↔
      ∃ e, s.tunnelTable[key']? = some e ∧ P e.tunnel_id e.overlay_intf_id := by
  rw [h key']
  split_ifs
  · cases s.tunnelTable[key']? with
    | none => exact Iff.rfl
    | some e =>
      constructor
      · rintro ⟨_, ⟨⟩, hP⟩
        exact ⟨e, rfl, hP⟩
      · rintro ⟨_, ⟨⟩, hP⟩
        exact ⟨_, rfl, hP⟩
  · exact Iff.rfl

theorem Objects.modified (h : Objects s) (hmod : Modified s s' key f)
    (htunnels : s'.asic.tunnels = s.asic.tunnels)
    (hinterfaces : s'.asic.router_interfaces = s.asic.router_interfaces) : Objects s' := by
  refine ⟨fun id overlay => ?_, fun id => ?_, fun {k k' i i'} hi hi' hsame => ?_⟩
  · rw [htunnels, h.tunnels]
    exact exists_congr fun k => (hmod.exists_iff fun a b => a = id ∧ b = overlay).symm
  · rw [hinterfaces, h.interfaces]
    exact exists_congr fun k => (hmod.exists_iff fun _ b => b = id).symm
  · obtain ⟨j, hj, hid, hov⟩ := (hmod.exists_iff fun a b => a = i.tunnel_id ∧
      b = i.overlay_intf_id).mp ⟨i, hi, rfl, rfl⟩
    obtain ⟨j', hj', hid', hov'⟩ := (hmod.exists_iff fun a b => a = i'.tunnel_id ∧
      b = i'.overlay_intf_id).mp ⟨i', hi', rfl, rfl⟩
    rw [← hid, ← hid', ← hov, ← hov'] at hsame
    exact h.apart hj hj' hsame

end Modified

/-- **Entries of a tunnel go**, from its list and from the ASIC. -/
theorem Inv.dropped {gone : TunnelTermEntry → Prop} {l : List TunnelTermEntry} (h : Inv s)
    (he : s.tunnelTable[key]? = some e) (hdrop : Dropped s s' gone)
    (hmod : Modified s s' key fun _ => l) (hl : ∀ t, t ∈ l ↔ t ∈ e.tunnel_term_info ∧ ¬ gone t)
    (hgone : ∀ t, gone t → t ∈ e.tunnel_term_info) (hnodup : l.Nodup) : Inv s' := by
  have hgone' : ∀ t, gone t → Has s key e.tunnel_id t := fun t ht => ⟨e, he, rfl, hgone t ht⟩
  -- what the tunnels have afterwards
  have hhas : ∀ key' tunnel_id t,
      Has s' key' tunnel_id t ↔ Has s key' tunnel_id t ∧ ¬ gone t := by
    intro key' tunnel_id t
    by_cases hkey : key' = key
    · subst hkey
      rw [has_of_lookup (hmod.self he), has_of_lookup he, hl, and_assoc]
    · rw [has_congr (hmod.other hkey)]
      refine (and_iff_left_of_imp fun hhas ht => ?_).symm
      exact hkey (h.disjoint hhas (hgone' t ht) rfl).1
  refine ⟨⟨h.toObjects.modified hmod hdrop.tunnels hdrop.interfaces, fun ip => ?_, ?_,
    fun {k i} hi => ?_, fun id x => ?_⟩, ⟨fun id x hx => ?_, fun id x hx => ?_, fun id hid => ?_⟩⟩
  · rw [hdrop.existing, h.existing]
    constructor
    · rintro ⟨⟨k, tunnel_id, t, ht, rfl⟩, hfree⟩
      exact ⟨k, tunnel_id, t, (hhas _ _ _).mpr ⟨ht, fun hg => hfree t hg rfl⟩, rfl⟩
    · rintro ⟨k, tunnel_id, t, ht, rfl⟩
      obtain ⟨ht, hng⟩ := (hhas _ _ _).mp ht
      refine ⟨⟨k, tunnel_id, t, ht, rfl⟩, fun u hu hip => hng ?_⟩
      rw [← (h.disjoint (hgone' u hu) ht hip).2]
      exact hu
  · intro k tunnel_id t k' tunnel_id' t' ht ht'
    exact h.disjoint ((hhas _ _ _).mp ht).1 ((hhas _ _ _).mp ht').1
  · by_cases hk : k = key
    · subst hk
      rw [hmod.self he] at hi
      obtain rfl := Option.some.inj hi
      exact hnodup
    · exact h.nodup ((hmod.other hk).symm.trans hi)
  · rw [hdrop.terms, h.terms]
    constructor
    · rintro ⟨⟨k, ht⟩, hfree⟩
      exact ⟨k, (hhas _ _ _).mpr ⟨ht, fun hg => hfree _ hg rfl⟩⟩
    · rintro ⟨k, ht⟩
      obtain ⟨ht, hng⟩ := (hhas _ _ _).mp ht
      refine ⟨⟨k, ht⟩, fun u hu hid => hng ?_⟩
      -- the entry of the ASIC tells the address
      have hx := (h.terms id x).mpr ⟨k, ht⟩
      have hu' := (h.terms id ⟨e.tunnel_id, u.ip_address⟩).mpr ⟨key, hid ▸ hgone' u hu⟩
      rw [hx] at hu'
      obtain rfl := Option.some.inj hu'
      obtain rfl := hid
      exact hu
  · rw [hdrop.next]
    exact h.below.terms id x ((hdrop.terms id x).mp hx).1
  · rw [hdrop.next]
    rw [hdrop.tunnels] at hx
    exact h.below.tunnels id x hx
  · rw [hdrop.next]
    rw [hdrop.interfaces] at hid
    exact h.below.interfaces id hid

/-! ### Entries come -/

theorem modified_createTerm :
    Modified s (createTerm s key tunnel_id ip) key (· ++ [⟨s.asic.next, ip⟩]) :=
  fun _ => getElem?_modify

/-- **An entry comes**, for an address that is free. -/
theorem Inv.createTerm (h : Inv s) (he : s.tunnelTable[key]? = some e) (hip : ip ∉ s.existingIps) :
    Inv (createTerm s key e.tunnel_id ip) := by
  have hmod : Modified s (TunnelDecap.createTerm s key e.tunnel_id ip) key
      (· ++ [⟨s.asic.next, ip⟩]) := modified_createTerm
  have hfree : ∀ key' tunnel_id t, Has s key' tunnel_id t → t.ip_address ≠ ip := by
    rintro key' tunnel_id t ht rfl
    exact hip ((h.existing _).mpr ⟨key', tunnel_id, t, ht, rfl⟩)
  have hhas : ∀ key' tunnel_id t,
      Has (TunnelDecap.createTerm s key e.tunnel_id ip) key' tunnel_id t ↔
      Has s key' tunnel_id t ∨
        (key' = key ∧ tunnel_id = e.tunnel_id ∧ t = ⟨s.asic.next, ip⟩) := by
    intro key' tunnel_id t
    by_cases hkey : key' = key
    · subst hkey
      rw [has_of_lookup (hmod.self he), has_of_lookup he, List.mem_append, List.mem_singleton]
      constructor
      · rintro ⟨rfl, ht | ht⟩
        · exact .inl ⟨rfl, ht⟩
        · exact .inr ⟨rfl, rfl, ht⟩
      · rintro (⟨hid, ht⟩ | ⟨-, hid, ht⟩)
        · exact ⟨hid, .inl ht⟩
        · exact ⟨hid.symm, .inr ht⟩
    · rw [has_congr (hmod.other hkey)]
      exact (or_iff_left fun hnew => hkey hnew.1).symm
  refine ⟨⟨h.toObjects.modified hmod rfl rfl, fun a => ?_, ?_, fun {k i} hi => ?_, fun id x => ?_⟩,
    ⟨fun id x hx => ?_, fun id x hx => ?_, fun id hid => ?_⟩⟩
  · show a ∈ insert ip s.existingIps ↔ _
    rw [Finset.mem_insert, h.existing]
    constructor
    · rintro (rfl | ⟨k, tunnel_id, t, ht, hta⟩)
      · exact ⟨key, e.tunnel_id, _, (hhas _ _ _).mpr (.inr ⟨rfl, rfl, rfl⟩), rfl⟩
      · exact ⟨k, tunnel_id, t, (hhas _ _ _).mpr (.inl ht), hta⟩
    · rintro ⟨k, tunnel_id, t, ht, hta⟩
      rcases (hhas _ _ _).mp ht with ht | ⟨-, -, rfl⟩
      · exact .inr ⟨k, tunnel_id, t, ht, hta⟩
      · exact .inl hta.symm
  · intro k tunnel_id t k' tunnel_id' t' ht ht' hsame
    rcases (hhas _ _ _).mp ht with hold | ⟨rfl, -, rfl⟩
    · rcases (hhas _ _ _).mp ht' with hold' | ⟨rfl, -, rfl⟩
      · exact h.disjoint hold hold' hsame
      · exact absurd hsame (hfree _ _ _ hold)
    · rcases (hhas _ _ _).mp ht' with hold' | ⟨rfl, -, rfl⟩
      · exact absurd hsame.symm (hfree _ _ _ hold')
      · exact ⟨rfl, rfl⟩
  · by_cases hk : k = key
    · subst hk
      rw [hmod.self he] at hi
      obtain rfl := Option.some.inj hi
      refine List.Nodup.append (h.nodup he) (List.nodup_singleton _) ?_
      intro t ht hnew
      obtain rfl := List.mem_singleton.mp hnew
      exact hfree k e.tunnel_id _ ⟨e, he, rfl, ht⟩ rfl
    · exact h.nodup ((hmod.other hk).symm.trans hi)
  · show (s.asic.terms.insert s.asic.next ⟨e.tunnel_id, ip⟩)[id]? = some x ↔ _
    rw [getElem?_insert]
    split_ifs with hid
    · subst hid
      constructor
      · rintro ⟨⟩
        exact ⟨key, (hhas _ _ _).mpr (.inr ⟨rfl, rfl, rfl⟩)⟩
      · rintro ⟨k, ht⟩
        rcases (hhas _ _ _).mp ht with ht | ⟨-, htunnel, ht⟩
        · exact absurd (h.below.terms _ x ((h.terms _ x).mpr ⟨k, ht⟩)) (lt_irrefl _)
        · obtain ⟨tunnel_id, dst_ip⟩ := x
          obtain rfl : tunnel_id = e.tunnel_id := htunnel
          obtain rfl : dst_ip = ip := (TunnelTermEntry.mk.inj ht).2
          rfl
    · rw [h.terms]
      constructor
      · rintro ⟨k, ht⟩
        exact ⟨k, (hhas _ _ _).mpr (.inl ht)⟩
      · rintro ⟨k, ht⟩
        rcases (hhas _ _ _).mp ht with ht | ⟨-, -, ht⟩
        · exact ⟨k, ht⟩
        · exact absurd (TunnelTermEntry.mk.inj ht).1.symm hid
  · show id < s.asic.next + 1
    rw [show (TunnelDecap.createTerm s key e.tunnel_id ip).asic.terms[id]? =
      (s.asic.terms.insert s.asic.next ⟨e.tunnel_id, ip⟩)[id]? from rfl, getElem?_insert] at hx
    split_ifs at hx with hid
    · exact hid ▸ Nat.lt_succ_self _
    · exact Nat.lt_succ_of_lt (h.below.terms id x hx)
  · exact Nat.lt_succ_of_lt (h.below.tunnels id x hx)
  · exact Nat.lt_succ_of_lt (h.below.interfaces id hid)

/-- What adding entries does to the tunnels: the others stay, and the one has more entries. -/
structure Added (s s' : St) (key : String) (e : TunnelEntry) : Prop where
  other : ∀ key' ≠ key, s'.tunnelTable[key']? = s.tunnelTable[key']?
  self : ∃ l, s'.tunnelTable[key]? = some { e with tunnel_term_info := l }

/-- **Addresses are added**, those that are free, up to one that is refused. -/
theorem Inv.addTerms (h : Inv s) (he : s.tunnelTable[key]? = some e) (sai : Sai)
    (tunnel_ips : List IpAddress) :
    Inv (addDecapTunnelTermEntries sai s key e.tunnel_id tunnel_ips).1 ∧
    Added s (addDecapTunnelTermEntries sai s key e.tunnel_id tunnel_ips).1 key e ∧
    ((addDecapTunnelTermEntries sai s key e.tunnel_id tunnel_ips).2 = true → ∀ ip,
      Ends (addDecapTunnelTermEntries sai s key e.tunnel_id tunnel_ips).1 key ip ↔
        Ends s key ip ∨ (ip ∈ tunnel_ips ∧ ip ∉ s.existingIps)) := by
  induction tunnel_ips generalizing s e with
  | nil =>
    refine ⟨h, ⟨fun _ _ => rfl, ⟨_, he⟩⟩, fun _ ip => ?_⟩
    exact (or_iff_left fun hnew => absurd hnew.1 List.not_mem_nil).symm
  | cons ip tunnel_ips ih =>
    rw [addDecapTunnelTermEntries]
    split_ifs with hexists hcreate
    · -- the address is left out
      obtain ⟨hinv, hadded, hends⟩ := ih h he
      refine ⟨hinv, hadded, fun hok ip' => (hends hok ip').trans (or_congr_right ?_)⟩
      rw [List.mem_cons]
      constructor
      · exact fun hnew => ⟨.inr hnew.1, hnew.2⟩
      · rintro ⟨rfl | hmem, hfree⟩
        · exact absurd hexists hfree
        · exact ⟨hmem, hfree⟩
    · have hmod : Modified s (TunnelDecap.createTerm s key e.tunnel_id ip) key
          (· ++ [⟨s.asic.next, ip⟩]) := modified_createTerm
      have hcreated := h.createTerm he hexists
      obtain ⟨hinv, hadded, hends⟩ := ih hcreated (hmod.self he)
      refine ⟨hinv, ⟨fun key' hne => (hadded.other key' hne).trans (hmod.other hne),
        hadded.self⟩, fun hok ip' => (hends hok ip').trans ?_⟩
      have hself : Ends (TunnelDecap.createTerm s key e.tunnel_id ip) key ip' ↔
          Ends s key ip' ∨ ip' = ip := by
        unfold Ends
        simp only [has_of_lookup (hmod.self he), has_of_lookup he, List.mem_append,
          List.mem_singleton]
        constructor
        · rintro ⟨_, t, ⟨rfl, ht | rfl⟩, rfl⟩
          · exact .inl ⟨_, t, ⟨rfl, ht⟩, rfl⟩
          · exact .inr rfl
        · rintro (⟨_, t, ⟨rfl, ht⟩, rfl⟩ | rfl)
          · exact ⟨_, t, ⟨rfl, .inl ht⟩, rfl⟩
          · exact ⟨_, ⟨s.asic.next, ip'⟩, ⟨rfl, .inr rfl⟩, rfl⟩
      rw [hself, List.mem_cons]
      show _ ∨ (ip' ∈ tunnel_ips ∧ ip' ∉ insert ip s.existingIps) ↔ _
      rw [Finset.mem_insert]
      constructor
      · rintro ((hold | rfl) | ⟨hmem, hfree⟩)
        · exact .inl hold
        · exact .inr ⟨.inl rfl, hexists⟩
        · exact .inr ⟨.inr hmem, fun hin => hfree (.inr hin)⟩
      · rintro (hold | ⟨rfl | hmem, hfree⟩)
        · exact .inl (.inl hold)
        · exact .inl (.inr rfl)
        · by_cases heq : ip' = ip
          · exact .inl (.inr heq)
          · exact .inr ⟨hmem, fun hin => hin.elim heq hfree⟩
    · exact ⟨h, ⟨fun _ _ => rfl, ⟨_, he⟩⟩, nofun⟩

/-! ### A new list of addresses -/

theorem remove_eq (hremove : sai.remove_tunnel_term_table_entry t.tunnel_term_id = true) :
    removeDecapTunnelTermEntry s sai t = (dropTerm s t, true) := if_pos hremove

/-- The entries that a new list does not name go, the others are recorded again. -/
theorem keepTerms_spec (s : St) (key : String)
    (hremove : ∀ id, sai.remove_tunnel_term_table_entry id = true)
    (ips : IpAddresses) (l : List TunnelTermEntry) :
    (keepTerms sai s key ips l).2 = true ∧
    Dropped s (keepTerms sai s key ips l).1 (fun t => t ∈ l ∧ t.ip_address ∉ ips.m_ips) ∧
    Modified s (keepTerms sai s key ips l).1 key
      (· ++ l.filter fun t => t.ip_address ∈ ips.m_ips) := by
  induction l generalizing s with
  | nil =>
    refine ⟨rfl, Dropped.none.congr fun t => ⟨nofun, fun h => List.not_mem_nil h.1⟩,
      fun key' => ?_⟩
    show s.tunnelTable[key']? = _
    split_ifs
    · cases s.tunnelTable[key']? with
      | none => rfl
      | some e =>
        show some e = some { e with tunnel_term_info := e.tunnel_term_info ++ [] }
        rw [List.append_nil]
    · rfl
  | cons t l ih =>
    rw [keepTerms]
    by_cases hmem : t.ip_address ∈ ips.m_ips
    · rw [if_neg (not_not_intro hmem), List.filter_cons_of_pos (by simpa using hmem)]
      obtain ⟨hok, hdrop, hmod⟩ := ih (modifyInfo s key (· ++ [t]))
      have hkeep : Dropped s (modifyInfo s key (· ++ [t])) fun _ => False := by
        refine ⟨fun ip => ⟨fun h => ⟨h, nofun⟩, And.left⟩, fun id x => ?_, rfl, rfl, rfl⟩
        exact ⟨fun h => ⟨h, nofun⟩, And.left⟩
      refine ⟨hok, (hkeep.trans hdrop).congr fun u => ?_, ?_⟩
      · rw [false_or, List.mem_cons]
        constructor
        · exact fun hu => ⟨.inr hu.1, hu.2⟩
        · rintro ⟨rfl | hu, hnot⟩
          · exact absurd hmem hnot
          · exact ⟨hu, hnot⟩
      · have hboth := modified_modifyInfo.trans hmod
        simp only [List.append_assoc, List.singleton_append] at hboth
        exact hboth
    · rw [if_pos hmem, remove_eq (hremove _), List.filter_cons_of_neg (by simpa using hmem)]
      obtain ⟨hok, hdrop, hmod⟩ := ih (s := dropTerm s t)
      refine ⟨hok, (dropped_dropTerm.trans hdrop).congr fun u => ?_, hmod⟩
      rw [List.mem_cons]
      constructor
      · rintro (rfl | hu)
        · exact ⟨.inl rfl, hmem⟩
        · exact ⟨.inr hu.1, hu.2⟩
      · rintro ⟨rfl | hu, hnot⟩
        · exact .inl rfl
        · exact .inr ⟨hu, hnot⟩

/-- **A tunnel gets a new list of addresses**: if no removal is refused the records stay exact,
and if no creation is either, the tunnel has the new addresses but those of others. -/
theorem Inv.setIpAttribute (h : Inv s) (he : s.tunnelTable[key]? = some e)
    (hremove : ∀ id, sai.remove_tunnel_term_table_entry id = true) (ips : IpAddresses) :
    Inv (setIpAttribute s sai key e ips).1 ∧
    Added s (setIpAttribute s sai key e ips).1 key e ∧
    ((setIpAttribute s sai key e ips).2 = true → ∀ ip,
      Ends (setIpAttribute s sai key e ips).1 key ip ↔
        ip ∈ ips.m_ips ∧ ∀ key' ≠ key, ¬ Ends s key' ip) := by
  obtain ⟨hok, hdrop, hmod⟩ := keepTerms_spec (modifyInfo s key fun _ => []) key
    hremove ips e.tunnel_term_info
  have hresult : TunnelDecap.setIpAttribute s sai key e ips =
      addDecapTunnelTermEntries sai (keepTerms sai (modifyInfo s key fun _ => []) key ips
        e.tunnel_term_info).1 key e.tunnel_id ips.m_ips := by
    unfold TunnelDecap.setIpAttribute
    rcases hkeep : keepTerms sai (modifyInfo s key fun _ => []) key ips e.tunnel_term_info
      with ⟨s₁, ok⟩
    rw [hkeep] at hok
    cases hok
    rfl
  rw [hresult]
  generalize (keepTerms sai (modifyInfo s key fun _ => []) key ips e.tunnel_term_info).1 = s₁
    at hdrop hmod
  -- what is left of the old list
  have hmod₁ : Modified s s₁ key fun _ =>
      e.tunnel_term_info.filter fun t => t.ip_address ∈ ips.m_ips := by
    have hboth := modified_modifyInfo.trans hmod
    simp only [List.nil_append] at hboth
    exact hboth
  have hdrop₁ : Dropped s s₁ fun t => t ∈ e.tunnel_term_info ∧ t.ip_address ∉ ips.m_ips :=
    ⟨hdrop.existing, hdrop.terms, hdrop.next, hdrop.tunnels, hdrop.interfaces⟩
  have hinv₁ : Inv s₁ := by
    refine h.dropped he hdrop₁ hmod₁ (fun t => ?_) (fun t ht => ht.1) ((h.nodup he).filter _)
    rw [List.mem_filter, decide_eq_true_iff]
    refine and_congr_right fun ht => ?_
    rw [not_and, not_not]
    exact ⟨fun hin _ => hin, fun hin => hin ht⟩
  obtain ⟨hinv, hadded, hends⟩ := hinv₁.addTerms (hmod₁.self he) sai ips.m_ips
  refine ⟨hinv, ⟨fun key' hne => (hadded.other key' hne).trans (hmod₁.other hne), hadded.self⟩,
    fun hall ip => (hends hall ip).trans ?_⟩
  have hself : Ends s₁ key ip ↔ Ends s key ip ∧ ip ∈ ips.m_ips := by
    unfold Ends
    simp only [has_of_lookup (hmod₁.self he), has_of_lookup he, List.mem_filter,
      decide_eq_true_eq]
    constructor
    · rintro ⟨_, t, ⟨rfl, ht, hin⟩, rfl⟩
      exact ⟨⟨_, t, ⟨rfl, ht⟩, rfl⟩, hin⟩
    · rintro ⟨⟨_, t, ⟨rfl, ht⟩, rfl⟩, hin⟩
      exact ⟨_, t, ⟨rfl, ht, hin⟩, rfl⟩
  rw [hself, hinv₁.existing]
  constructor
  · rintro (⟨⟨tunnel_id, t, ht, rfl⟩, hin⟩ | ⟨hin, hfree⟩)
    · refine ⟨hin, ?_⟩
      rintro key' hne ⟨tunnel_id', t', ht', hsame⟩
      exact hne (h.disjoint ht' ht hsame).1
    · exact ⟨hin, fun key' hne hother => hfree ⟨key', (ends_congr (hmod₁.other hne)).mpr hother⟩⟩
  · rintro ⟨hin, hothers⟩
    by_cases hold : Ends s key ip
    · exact .inl ⟨hold, hin⟩
    · refine .inr ⟨hin, ?_⟩
      rintro ⟨key', hends'⟩
      by_cases hne : key' = key
      · exact hold (hself.mp (hne ▸ hends')).1
      · exact hothers key' hne ((ends_congr (hmod₁.other hne)).mp hends')

/-! ### The fields of a SET -/

theorem overlay_setMode {tunnel : Tunnel} {field value : String} :
    (tunnel.setMode field value).overlay_interface = tunnel.overlay_interface := by
  unfold Tunnel.setMode
  split_ifs
  · rfl
  · rfl
  · rfl
  · rfl

/-- A mode of a tunnel changes no record. -/
theorem Inv.setTunnelAttribute (h : Inv s) (sai : Sai) (field value : String)
    (tunnel_id : sai_object_id_t) :
    Inv (setTunnelAttribute s sai field value tunnel_id).1 ∧
      (setTunnelAttribute s sai field value tunnel_id).1.tunnelTable = s.tunnelTable := by
  unfold TunnelDecap.setTunnelAttribute
  split_ifs with hset
  · refine ⟨⟨⟨⟨fun id overlay => ?_, h.interfaces, h.apart⟩, h.existing, h.disjoint, h.nodup,
      h.terms⟩, h.below.terms, fun id x hx => ?_, h.below.interfaces⟩, rfl⟩
    · refine Iff.trans ?_ (h.tunnels id overlay)
      show (∃ x, (s.asic.tunnels.modify tunnel_id _)[id]? = some x ∧ _) ↔ _
      rw [getElem?_modify]
      split_ifs
      · cases s.asic.tunnels[id]? with
        | none => exact ⟨nofun, nofun⟩
        | some x =>
          constructor
          · rintro ⟨_, ⟨⟩, hoverlay⟩
            exact ⟨x, rfl, overlay_setMode.symm.trans hoverlay⟩
          · rintro ⟨_, ⟨⟩, hoverlay⟩
            exact ⟨_, rfl, overlay_setMode.trans hoverlay⟩
      · exact Iff.rfl
    · rw [getElem?_modify] at hx
      split_ifs at hx
      · obtain ⟨y, hy, -⟩ := Option.map_eq_some_iff.mp hx
        exact h.below.tunnels id y hy
      · exact h.below.tunnels id x hx
  · exact ⟨h, rfl⟩

variable {f g : Fields} {i : FieldValueTuple} {l : List FieldValueTuple} {sais : ℕ → Sai}

/-- Whether a field is accepted does not depend on the fields before it. -/
theorem readField_isSome : (readField f i).isSome = accepted i := by
  unfold accepted readField
  split_ifs
  · rfl
  · rfl
  · cases IpAddresses.ofString i.2 with
    | none => rfl
    | some ips => rfl
  · cases IpAddress.ofString i.2.toList with
    | none => rfl
    | some ip => rfl
  · rfl
  · rfl
  · rfl
  · rfl
  · rfl
  · rfl
  · rfl

/-- What the loop says of the fields does not depend on what it applies. -/
theorem readFields_valid : (readFields s sais key f l).2.1 = l.foldlM readField f := by
  induction l generalizing s f with
  | nil => rfl
  | cons i l ih =>
    unfold readFields
    rw [List.foldlM_cons]
    cases hread : readField f i with
    | none => rfl
    | some f' => exact ih

/-- The new addresses are those of the last field that gives some. -/
theorem readField_ips (hread : readField f i = some g) (hdst : i.1 ≠ "dst_ip") :
    g.ip_addresses = f.ip_addresses := by
  unfold readField at hread
  rw [if_neg hdst] at hread
  split_ifs at hread
  · obtain rfl := Option.some.inj hread
    rfl
  · obtain ⟨src_ip, -, rfl⟩ := Option.map_eq_some_iff.mp hread
    rfl
  · obtain rfl := Option.some.inj hread
    rfl
  · obtain rfl := Option.some.inj hread
    rfl
  · obtain rfl := Option.some.inj hread
    rfl
  · obtain rfl := Option.some.inj hread
    rfl

/-- One field is applied. -/
theorem Inv.applyField (sai : Sai) (f : Fields) (i : FieldValueTuple) (h : Inv s)
    (he : s.tunnelTable[key]? = some e)
    (hremove : ∀ id, sai.remove_tunnel_term_table_entry id = true) :
    Inv (applyField s sai key f i).1 ∧ Added s (applyField s sai key f i).1 key e ∧
    (i.1 = "dst_ip" → (applyField s sai key f i).2 = true → ∀ ip,
      Ends (applyField s sai key f i).1 key ip ↔
        ip ∈ f.ip_addresses.m_ips ∧ ∀ key' ≠ key, ¬ Ends s key' ip) ∧
    (i.1 ≠ "dst_ip" → (applyField s sai key f i).1.tunnelTable = s.tunnelTable) := by
  unfold TunnelDecap.applyField
  rw [he]
  dsimp only
  by_cases hdst : i.1 = "dst_ip"
  · rw [if_pos hdst]
    obtain ⟨hinv, hadded, hends⟩ := h.setIpAttribute he hremove f.ip_addresses
    exact ⟨hinv, hadded, fun _ => hends, fun hne => absurd hdst hne⟩
  · rw [if_neg hdst]
    split_ifs with hmode
    · obtain ⟨hinv, htable⟩ := h.setTunnelAttribute sai i.1 i.2 e.tunnel_id
      refine ⟨hinv, ⟨fun key' _ => by rw [htable], ⟨e.tunnel_term_info, ?_⟩⟩,
        fun heq => absurd heq hdst, fun _ => htable⟩
      rw [htable]
      exact he
    · exact ⟨h, ⟨fun _ _ => rfl, ⟨_, he⟩⟩, fun heq => absurd heq hdst, fun _ => rfl⟩

/-- **The fields are applied one after the other**; the last new list of addresses counts. -/
theorem Inv.readFields (h : Inv s) (he : s.tunnelTable[key]? = some e)
    (hremove : ∀ n id, (sais n).remove_tunnel_term_table_entry id = true) :
    Inv (readFields s sais key f l).1 ∧ Added s (readFields s sais key f l).1 key e ∧
    ((readFields s sais key f l).2.2 = true → ∀ g, (readFields s sais key f l).2.1 = some g →
      if ∃ i ∈ l, i.1 = "dst_ip" then ∀ ip, Ends (readFields s sais key f l).1 key ip ↔
        ip ∈ g.ip_addresses.m_ips ∧ ∀ key' ≠ key, ¬ Ends s key' ip
      else g.ip_addresses = f.ip_addresses ∧
        (readFields s sais key f l).1.tunnelTable = s.tunnelTable) := by
  induction l generalizing s f e with
  | nil =>
    refine ⟨h, ⟨fun _ _ => rfl, ⟨_, he⟩⟩, ?_⟩
    rintro - g hg
    rw [if_neg (by simp)]
    exact ⟨(congrArg Fields.ip_addresses (Option.some.inj hg)).symm, rfl⟩
  | cons i l ih =>
    rw [TunnelDecap.readFields]
    cases hread : readField f i with
    | none => exact ⟨h, ⟨fun _ _ => rfl, ⟨_, he⟩⟩, fun _ g hg => absurd hg nofun⟩
    | some f' =>
      dsimp only
      obtain ⟨hinv, hadded, hdst, hrest⟩ := h.applyField (sais (l.length + 1)) f' i he
        (hremove _)
      rcases happly : TunnelDecap.applyField s (sais (l.length + 1)) key f' i with ⟨s', applied⟩
      rw [happly] at hinv hadded hdst hrest
      obtain ⟨info, hself⟩ := hadded.self
      obtain ⟨hinv', hadded', hlist⟩ := ih (f := f') hinv hself
      dsimp only
      refine ⟨hinv', ⟨fun key' hne => (hadded'.other key' hne).trans (hadded.other key' hne),
        hadded'.self⟩, fun hall g hg => ?_⟩
      obtain ⟨happlied, hall⟩ := Bool.and_eq_true_iff.mp hall
      have hlist := hlist hall g hg
      have hothers : ∀ ip, (∀ key' ≠ key, ¬ Ends s' key' ip) ↔ ∀ key' ≠ key, ¬ Ends s key' ip :=
        fun ip => forall₂_congr fun key' hne => not_congr (ends_congr (hadded.other key' hne))
      by_cases hlater : ∃ j ∈ l, j.1 = "dst_ip"
      · rw [if_pos hlater] at hlist
        obtain ⟨j, hj, hjdst⟩ := hlater
        rw [if_pos ⟨j, List.mem_cons_of_mem _ hj, hjdst⟩]
        intro ip
        rw [hlist ip, hothers ip]
      · rw [if_neg hlater] at hlist
        obtain ⟨hips, htable⟩ := hlist
        by_cases hi : i.1 = "dst_ip"
        · rw [if_pos ⟨i, List.mem_cons_self, hi⟩, hips]
          refine fun ip => (ends_congr ?_).trans (hdst hi happlied ip)
          rw [htable]
        · rw [if_neg]
          · exact ⟨hips.trans (readField_ips hread hi), htable.trans (hrest hi)⟩
          · rintro ⟨j, hj, hjdst⟩
            rcases List.mem_cons.mp hj with rfl | hj
            · exact hi hjdst
            · exact hlater ⟨j, hj, hjdst⟩

/-- Nothing has been applied when the first field that is not accepted is read. -/
theorem readFields_invalid (hinvalid : l.foldlM readField f = none)
    (hcalm : ∀ i ∈ l.takeWhile accepted, ¬ Applied i) : (readFields s sais key f l).1 = s := by
  induction l generalizing s f with
  | nil => cases hinvalid
  | cons i l ih =>
    rw [TunnelDecap.readFields]
    rw [List.foldlM_cons] at hinvalid
    cases hread : readField f i with
    | none => rfl
    | some f' =>
      rw [hread] at hinvalid
      have haccepted : accepted i = true := by
        rw [← readField_isSome (f := f), hread]
        rfl
      rw [List.takeWhile_cons_of_pos haccepted] at hcalm
      have hnot := hcalm i List.mem_cons_self
      have happly : TunnelDecap.applyField s (sais (l.length + 1)) key f' i = (s, true) := by
        unfold TunnelDecap.applyField
        cases s.tunnelTable[key]? with
        | none => rfl
        | some e =>
          dsimp only
          rw [if_neg fun heq => hnot (.inl heq), if_neg fun hmode => hnot (.inr hmode)]
      dsimp only
      rw [happly]
      exact ih hinvalid fun j hj => hcalm j (List.mem_cons_of_mem _ hj)

/-- Fields that are all accepted are valid together. -/
theorem foldlM_readField (hall : ∀ i ∈ l, accepted i) : l.foldlM readField f ≠ none := by
  induction l generalizing f with
  | nil => exact Option.some_ne_none f
  | cons i l ih =>
    rw [List.foldlM_cons]
    cases hread : readField f i with
    | none =>
      have haccepted := hall i List.mem_cons_self
      rw [← readField_isSome (f := f), hread] at haccepted
      cases haccepted
    | some f' => exact ih fun j hj => hall j (List.mem_cons_of_mem _ hj)

/-! ### Tunnels come and go -/

theorem Inv.tunnel_lt (h : Inv s) (he : s.tunnelTable[key]? = some e) :
    e.tunnel_id < s.asic.next := by
  obtain ⟨x, hx, -⟩ := (h.tunnels e.tunnel_id e.overlay_intf_id).mpr ⟨key, e, he, rfl, rfl⟩
  exact h.below.tunnels _ x hx

theorem Inv.overlay_lt (h : Inv s) (he : s.tunnelTable[key]? = some e) :
    e.overlay_intf_id < s.asic.next :=
  h.below.interfaces _ ((h.interfaces _).mpr ⟨key, e, he, rfl⟩)

/-- **A tunnel comes**, without addresses. -/
theorem Inv.createTunnel (h : Inv s) (hnone : s.tunnelTable[key]? = none) :
    Inv (createTunnel s key f) := by
  have hself : (TunnelDecap.createTunnel s key f).tunnelTable[key]? =
      some ⟨s.asic.next + 1, s.asic.next, []⟩ := getElem?_insert.trans (if_pos rfl)
  have hother : ∀ key' ≠ key, (TunnelDecap.createTunnel s key f).tunnelTable[key']? =
      s.tunnelTable[key']? := fun key' hne => getElem?_insert.trans (if_neg hne.symm)
  have hne : ∀ {k : String} {i : TunnelEntry}, s.tunnelTable[k]? = some i → k ≠ key := by
    rintro k i hi rfl
    rw [hnone] at hi
    cases hi
  have hhas : ∀ k tunnel_id t, Has (TunnelDecap.createTunnel s key f) k tunnel_id t ↔
      Has s k tunnel_id t := by
    intro k tunnel_id t
    by_cases hk : k = key
    · subst hk
      rw [has_of_lookup hself]
      refine iff_of_false (fun hnew => List.not_mem_nil hnew.2) ?_
      rintro ⟨i, hi, -⟩
      exact hne hi rfl
    · exact has_congr (hother k hk)
  have hends : ∀ k ip, Ends (TunnelDecap.createTunnel s key f) k ip ↔ Ends s k ip := by
    intro k ip
    unfold Ends
    simp only [hhas]
  -- an entry is the new one, or it was there
  have hentry : ∀ {k : String} {i : TunnelEntry},
      (TunnelDecap.createTunnel s key f).tunnelTable[k]? = some i →
        (k = key ∧ i = ⟨s.asic.next + 1, s.asic.next, []⟩) ∨ s.tunnelTable[k]? = some i := by
    intro k i hi
    by_cases hk : k = key
    · subst hk
      exact .inl ⟨rfl, (Option.some.inj (hself.symm.trans hi)).symm⟩
    · exact .inr ((hother k hk).symm.trans hi)
  refine ⟨⟨⟨fun id overlay => ?_, fun id => ?_, fun {k k' i i'} hi hi' hsame => ?_⟩, fun ip => ?_,
    fun ht ht' => h.disjoint ((hhas _ _ _).mp ht) ((hhas _ _ _).mp ht'), fun {k i} hi => ?_,
    fun id x => ?_⟩, ⟨fun id x hx => ?_, fun id x hx => ?_, fun id hid => ?_⟩⟩
  · show (∃ x, (s.asic.tunnels.insert (s.asic.next + 1) _)[id]? = some x ∧ _) ↔ _
    rw [getElem?_insert]
    split_ifs with hid
    · subst hid
      constructor
      · rintro ⟨_, ⟨⟩, rfl⟩
        exact ⟨key, _, hself, rfl, rfl⟩
      · rintro ⟨k, i, hi, hid, rfl⟩
        rcases hentry hi with ⟨-, rfl⟩ | hold
        · exact ⟨_, rfl, rfl⟩
        · have hlt := h.tunnel_lt hold
          rw [hid] at hlt
          exact absurd hlt (Nat.not_lt.mpr (Nat.le_succ _))
    · rw [h.tunnels]
      constructor
      · rintro ⟨k, i, hi, hrest⟩
        exact ⟨k, i, (hother k (hne hi)).trans hi, hrest⟩
      · rintro ⟨k, i, hi, rfl, rfl⟩
        rcases hentry hi with ⟨-, rfl⟩ | hold
        · exact absurd rfl hid
        · exact ⟨k, i, hold, rfl, rfl⟩
  · show id ∈ insert s.asic.next s.asic.router_interfaces ↔ _
    rw [Finset.mem_insert, h.interfaces]
    constructor
    · rintro (rfl | ⟨k, i, hi, rfl⟩)
      · exact ⟨key, _, hself, rfl⟩
      · exact ⟨k, i, (hother k (hne hi)).trans hi, rfl⟩
    · rintro ⟨k, i, hi, rfl⟩
      rcases hentry hi with ⟨-, rfl⟩ | hold
      · exact .inl rfl
      · exact .inr ⟨k, i, hold, rfl⟩
  · rcases hentry hi with ⟨rfl, rfl⟩ | hold
    · rcases hentry hi' with ⟨rfl, rfl⟩ | hold'
      · rfl
      · -- the objects of the new tunnel are new
        have htunnel := h.tunnel_lt hold'
        have hoverlay := h.overlay_lt hold'
        rcases hsame with hsame | hsame
        · rw [← hsame] at htunnel
          exact absurd htunnel (Nat.not_lt.mpr (Nat.le_succ _))
        · rw [← hsame] at hoverlay
          exact absurd hoverlay (lt_irrefl _)
    · rcases hentry hi' with ⟨rfl, rfl⟩ | hold'
      · have htunnel := h.tunnel_lt hold
        have hoverlay := h.overlay_lt hold
        rcases hsame with hsame | hsame
        · rw [hsame] at htunnel
          exact absurd htunnel (Nat.not_lt.mpr (Nat.le_succ _))
        · rw [hsame] at hoverlay
          exact absurd hoverlay (lt_irrefl _)
      · exact h.apart hold hold' hsame
  · exact (h.existing ip).trans (exists_congr fun k => (hends k ip).symm)
  · rcases hentry hi with ⟨-, rfl⟩ | hold
    · exact List.nodup_nil
    · exact h.nodup hold
  · exact (h.terms id x).trans (exists_congr fun k => (hhas _ _ _).symm)
  · exact Nat.lt_add_right 2 (h.below.terms id x hx)
  · rw [show (TunnelDecap.createTunnel s key f).asic.tunnels[id]? =
      (s.asic.tunnels.insert (s.asic.next + 1) _)[id]? from rfl, getElem?_insert] at hx
    split_ifs at hx with hid
    · exact hid ▸ Nat.lt_succ_self _
    · exact Nat.lt_add_right 2 (h.below.tunnels id x hx)
  · rcases Finset.mem_insert.mp hid with rfl | hid
    · exact Nat.lt_add_of_pos_right Nat.two_pos
    · exact Nat.lt_add_right 2 (h.below.interfaces id hid)

/-- A tunnel without addresses is removed with its overlay interface. -/
def eraseTunnel (s : St) (key : String) (tunnel_info : TunnelEntry) : St :=
  { s with
    tunnelTable := s.tunnelTable.erase key
    asic.tunnels := s.asic.tunnels.erase tunnel_info.tunnel_id
    asic.router_interfaces := s.asic.router_interfaces.erase tunnel_info.overlay_intf_id }

/-- **A tunnel goes** that has no addresses. -/
theorem Inv.eraseTunnel (h : Inv s) (he : s.tunnelTable[key]? = some e)
    (hempty : e.tunnel_term_info = []) : Inv (eraseTunnel s key e) := by
  have hself : (TunnelDecap.eraseTunnel s key e).tunnelTable[key]? = none :=
    getElem?_erase.trans (if_pos rfl)
  have hother : ∀ key' ≠ key, (TunnelDecap.eraseTunnel s key e).tunnelTable[key']? =
      s.tunnelTable[key']? := fun key' hne => getElem?_erase.trans (if_neg hne.symm)
  have hhas : ∀ k tunnel_id t, Has (TunnelDecap.eraseTunnel s key e) k tunnel_id t ↔
      Has s k tunnel_id t := by
    intro k tunnel_id t
    by_cases hk : k = key
    · subst hk
      refine iff_of_false ?_ ?_
      · rintro ⟨i, hi, -⟩
        rw [hself] at hi
        cases hi
      · rw [has_of_lookup he, hempty]
        exact fun hold => List.not_mem_nil hold.2
    · exact has_congr (hother k hk)
  have hends : ∀ k ip, Ends (TunnelDecap.eraseTunnel s key e) k ip ↔ Ends s k ip := by
    intro k ip
    unfold Ends
    simp only [hhas]
  have hentry : ∀ {k : String} {i : TunnelEntry},
      (TunnelDecap.eraseTunnel s key e).tunnelTable[k]? = some i ↔
        k ≠ key ∧ s.tunnelTable[k]? = some i := by
    intro k i
    by_cases hk : k = key
    · subst hk
      rw [hself]
      exact iff_of_false nofun fun hold => hold.1 rfl
    · rw [hother k hk]
      exact ⟨fun hold => ⟨hk, hold⟩, And.right⟩
  refine ⟨⟨⟨fun id overlay => ?_, fun id => ?_, fun hi hi' => h.apart (hentry.mp hi).2
    (hentry.mp hi').2⟩, fun ip => ?_, fun ht ht' => h.disjoint ((hhas _ _ _).mp ht)
    ((hhas _ _ _).mp ht'), fun hi => h.nodup (hentry.mp hi).2, fun id x => ?_⟩,
    ⟨h.below.terms, fun id x hx => ?_, fun id hid => ?_⟩⟩
  · show (∃ x, (s.asic.tunnels.erase e.tunnel_id)[id]? = some x ∧ _) ↔ _
    rw [getElem?_erase]
    split_ifs with hid
    · subst hid
      refine iff_of_false nofun ?_
      rintro ⟨k, i, hi, hid, -⟩
      obtain ⟨hne, hold⟩ := hentry.mp hi
      exact hne (h.apart hold he (.inl hid))
    · rw [h.tunnels]
      refine exists_congr fun k => exists_congr fun i => ?_
      rw [hentry]
      constructor
      · rintro ⟨hi, rfl, rfl⟩
        refine ⟨⟨?_, hi⟩, rfl, rfl⟩
        rintro rfl
        rw [he] at hi
        exact hid (congrArg TunnelEntry.tunnel_id (Option.some.inj hi))
      · rintro ⟨⟨-, hi⟩, hrest⟩
        exact ⟨hi, hrest⟩
  · show id ∈ s.asic.router_interfaces.erase e.overlay_intf_id ↔ _
    rw [Finset.mem_erase, h.interfaces]
    constructor
    · rintro ⟨hid, k, i, hi, rfl⟩
      refine ⟨k, i, hentry.mpr ⟨?_, hi⟩, rfl⟩
      rintro rfl
      rw [he] at hi
      exact hid (congrArg TunnelEntry.overlay_intf_id (Option.some.inj hi)).symm
    · rintro ⟨k, i, hi, rfl⟩
      obtain ⟨hne, hold⟩ := hentry.mp hi
      exact ⟨fun hid => hne (h.apart hold he (.inr hid)), k, i, hold, rfl⟩
  · exact (h.existing ip).trans (exists_congr fun k => (hends k ip).symm)
  · exact (h.terms id x).trans (exists_congr fun k => (hhas _ _ _).symm)
  · rw [show (TunnelDecap.eraseTunnel s key e).asic.tunnels[id]? =
      (s.asic.tunnels.erase e.tunnel_id)[id]? from rfl, getElem?_erase] at hx
    split_ifs at hx
    exact h.below.tunnels id x hx
  · exact h.below.interfaces id (Finset.mem_of_mem_erase hid)

/-- The entries of a tunnel that is removed go. -/
theorem removeTerms_spec {info : List TunnelTermEntry}
    (hremove : ∀ t ∈ info, sai.remove_tunnel_term_table_entry t.tunnel_term_id = true) :
    (removeTerms sai s info).2 = true ∧
    Dropped s (removeTerms sai s info).1 (· ∈ info) ∧
    (removeTerms sai s info).1.tunnelTable = s.tunnelTable := by
  induction info generalizing s with
  | nil => exact ⟨rfl, Dropped.none.congr fun t => ⟨nofun, nofun⟩, rfl⟩
  | cons t info ih =>
    rw [removeTerms, remove_eq (hremove t List.mem_cons_self)]
    obtain ⟨hok, hdrop, htable⟩ := ih (s := dropTerm s t)
      fun u hu => hremove u (List.mem_cons_of_mem _ hu)
    refine ⟨hok, (dropped_dropTerm.trans hdrop).congr fun u => ?_, htable⟩
    rw [List.mem_cons]

theorem removeTerms_refused {info : List TunnelTermEntry} (ht : t ∈ info.head?)
    (hrefused : sai.remove_tunnel_term_table_entry t.tunnel_term_id = false) :
    removeTerms sai s info = (s, false) := by
  cases info with
  | nil => cases ht
  | cons u info =>
    obtain rfl : u = t := Option.some.inj ht
    rw [removeTerms, removeDecapTunnelTermEntry, hrefused]
    rfl

/-- **A tunnel is removed**; if not as a whole, the records say what is left. -/
theorem Inv.removeDecapTunnel (h : Inv s) (he : s.tunnelTable[key]? = some e)
    (hcalm : CalmRemove sai e.tunnel_term_info) :
    Inv (removeDecapTunnel s sai key e).1 ∧
      (sai.Removes → key ∉ (removeDecapTunnel s sai key e).1.tunnelTable) := by
  rcases hcalm with ⟨t, ht, hrefused⟩ | ⟨hall, hboth⟩
  · unfold TunnelDecap.removeDecapTunnel
    rw [removeTerms_refused ht hrefused]
    refine ⟨h, fun hremoves => ?_⟩
    rw [hremoves.1] at hrefused
    cases hrefused
  · obtain ⟨hok, hdrop, htable⟩ := removeTerms_spec (s := s) hall
    unfold TunnelDecap.removeDecapTunnel
    rcases hterms : removeTerms sai s e.tunnel_term_info with ⟨s₁, ok⟩
    rw [hterms] at hok hdrop htable
    obtain rfl : ok = true := hok
    dsimp only
    -- the tunnel without addresses
    have hmod : Modified s (modifyInfo s₁ key fun _ => []) key fun _ => [] := by
      intro key'
      rw [modified_modifyInfo key', show s₁.tunnelTable = s.tunnelTable from htable]
    have hinv : Inv (modifyInfo s₁ key fun _ => []) :=
      h.dropped he ⟨hdrop.existing, hdrop.terms, hdrop.next, hdrop.tunnels, hdrop.interfaces⟩ hmod
        (fun t => iff_of_false List.not_mem_nil fun ht => ht.2 ht.1) (fun t ht => ht) List.nodup_nil
    by_cases htunnel : sai.remove_tunnel = true
    · rw [if_pos htunnel, if_pos (hboth htunnel)]
      have herased := hinv.eraseTunnel (hmod.self he) rfl
      refine ⟨herased, fun _ => ?_⟩
      exact not_mem_iff.mpr (getElem?_erase.trans (if_pos rfl))
    · rw [if_neg htunnel]
      exact ⟨hinv, fun hremoves => absurd hremoves.2.1 htunnel⟩

/-! ### Tasks -/

theorem set_ne_del : SET_COMMAND ≠ DEL_COMMAND := by decide

/-- A SET of a tunnel that exists. -/
theorem Inv.update {task : Task} (h : Inv s) (he : s.tunnelTable[task.kco.kfvKey]? = some e)
    (hop : task.kco.kfvOp = SET_COMMAND) (hcalm : CalmUpdate task) :
    Inv (next s task) ∧ Faithful s task := by
  have hmem : task.kco.kfvKey ∈ s.tunnelTable := mem_iff.mpr ⟨e, he⟩
  have hhandle : handleTask s task.sai task.kco =
      (let r := TunnelDecap.readFields s task.sai task.kco.kfvKey .empty task.kco.kfvFieldsValues
      (r.1, r.2.1.isSome && r.2.2)) := by
    unfold handleTask
    rw [if_pos hop, if_pos hmem]
  obtain ⟨hinv, -, hlist⟩ := h.readFields (f := .empty) (l := task.kco.kfvFieldsValues) he hcalm.1
  have hnext : next s task =
      (TunnelDecap.readFields s task.sai task.kco.kfvKey .empty task.kco.kfvFieldsValues).1 := by
    unfold next
    rw [hhandle]
  refine ⟨hnext ▸ hinv, fun _ hinvalid => ?_, fun _ _ hok f hf hdst => ?_,
    fun hdel => absurd (hop.symm.trans hdel) set_ne_del⟩
  · rw [hnext]
    refine readFields_invalid hinvalid (hcalm.2.resolve_left fun hall => ?_)
    exact foldlM_readField hall hinvalid
  · rw [hhandle] at hok
    obtain ⟨-, happlied⟩ := Bool.and_eq_true_iff.mp hok
    have hexact := hlist happlied f (readFields_valid.trans hf)
    rw [if_pos hdst] at hexact
    rw [hnext]
    exact hexact

/-- A SET of a tunnel that does not exist. -/
theorem Inv.create {task : Task} (h : Inv s) (hnone : s.tunnelTable[task.kco.kfvKey]? = none)
    (hop : task.kco.kfvOp = SET_COMMAND)
    (hcalm : fieldsOf task.kco ≠ none → CalmCreate (task.sai 0)) :
    Inv (next s task) ∧ Faithful s task := by
  have hmem : task.kco.kfvKey ∉ s.tunnelTable := not_mem_iff.mpr hnone
  have hdel : task.kco.kfvOp ≠ DEL_COMMAND := fun hdel => set_ne_del (hop.symm.trans hdel)
  unfold next
  cases hfields : fieldsOf task.kco with
  | none =>
    have hhandle : handleTask s task.sai task.kco = (s, false) := by
      unfold fieldsOf at hfields
      unfold handleTask
      rw [if_pos hop, if_neg hmem, hfields]
    have hnext : next s task = s := congrArg Prod.fst hhandle
    rw [hhandle]
    exact ⟨h, fun _ _ => hnext, fun _ hexists => absurd hexists hmem, fun hop => absurd hop hdel⟩
  | some f =>
    have hhandle : handleTask s task.sai task.kco =
        addDecapTunnel s (task.sai 0) task.kco.kfvKey f := by
      unfold fieldsOf at hfields
      unfold handleTask
      rw [if_pos hop, if_neg hmem, hfields]
    rw [hhandle]
    refine ⟨?_, fun _ hinvalid => ?_, fun _ hexists => absurd hexists hmem,
      fun hop => absurd hop hdel⟩
    · unfold addDecapTunnel
      by_cases hinterface : (task.sai 0).create_router_interface = true
      · have htunnel := hcalm (by rw [hfields]; exact Option.some_ne_none f) hinterface
        rw [if_pos hinterface, if_pos htunnel]
        exact ((h.createTunnel hnone).addTerms (getElem?_insert.trans (if_pos rfl)) _ _).1
      · rw [if_neg hinterface]
        exact h
    · rw [hfields] at hinvalid
      cases hinvalid

/-- **A task keeps the invariant**, and does what it should. -/
theorem Inv.step {task : Task} (h : Inv s) (hcalm : Calm s task) :
    Inv (next s task) ∧ Faithful s task := by
  obtain ⟨hupdate, hcreate, hremove⟩ := hcalm
  by_cases hset : task.kco.kfvOp = SET_COMMAND
  · cases he : s.tunnelTable[task.kco.kfvKey]? with
    | none => exact h.create he hset (hcreate hset (not_mem_iff.mpr he))
    | some e => exact h.update he hset (hupdate hset (mem_iff.mpr ⟨e, he⟩))
  · have hfaithful : (task.kco.kfvOp = DEL_COMMAND → task.kco.kfvKey ∈ s.tunnelTable →
        (task.sai 0).Removes → task.kco.kfvKey ∉ (next s task).tunnelTable) → Faithful s task :=
      fun hdel => ⟨fun hop => absurd hop hset, fun hop => absurd hop hset, hdel⟩
    by_cases hdel : task.kco.kfvOp = DEL_COMMAND
    · unfold next handleTask
      rw [if_neg hset, if_pos hdel]
      cases he : s.tunnelTable[task.kco.kfvKey]? with
      | none =>
        refine ⟨h, hfaithful fun _ hmem => ?_⟩
        exact absurd hmem (not_mem_iff.mpr he)
      | some e =>
        obtain ⟨hinv, hgone⟩ := h.removeDecapTunnel he (hremove hdel e he)
        refine ⟨hinv, hfaithful fun _ _ hremoves => ?_⟩
        unfold next handleTask
        rw [if_neg hset, if_pos hdel, he]
        exact hgone hremoves
    · unfold next handleTask
      rw [if_neg hset, if_neg hdel]
      exact ⟨h, hfaithful fun hop => absurd hop hdel⟩

/-- **Termination entries are tracked exactly**: after any tasks that meet the condition the
records agree with each other and with the ASIC, and another such task does what it should. -/
theorem tunnel_terms_tracked {tasks : List Task}
    (hrun : Run (Guarded Calm fun s e s' => s' = next s e) init tasks s) :
    Sound s ∧ ∀ e, Calm s e → Faithful s e := by
  have hinv : Inv s := by
    refine hrun.keeps inv_init fun {s e u} hs hstep => ?_
    obtain ⟨hcalm, rfl⟩ := hstep
    exact (hs.step hcalm).1
  exact ⟨hinv.toSound, fun e hcalm => (hinv.step hcalm).2⟩

/-! ### One tunnel -/

/-- The ASIC refuses nothing. -/
def willing : Sai := ⟨true, true, fun _ => true, true, fun _ => true, true, true⟩

def tunnel : Task :=
  ⟨⟨"IPINIP", "SET", [("tunnel_type", "IPINIP"), ("dst_ip", "10.0.0.1,10.0.0.2")]⟩,
    fun _ => willing⟩

theorem tunnel_terms_tracked_tunnel :
    Sound (next init tunnel) ∧ ∀ e, Calm (next init tunnel) e → Faithful (next init tunnel) e := by
  refine tunnel_terms_tracked
    (.single ⟨⟨fun _ hmem => ?_, fun _ _ _ _ => rfl, fun hdel => ?_⟩, rfl⟩)
  · exact absurd hmem (by simp [init])
  · exact absurd hdel (by decide)

/-- The tunnel is removed, but the ASIC keeps the entry of its second address. -/
def halfRemoved : Task :=
  ⟨⟨"IPINIP", "DEL", []⟩,
    fun _ => { willing with remove_tunnel_term_table_entry := fun id => id ≠ 3 }⟩

/-- **A removal that fails in the middle** leaves an entry in the list that is gone. -/
theorem not_tunnel_terms_tracked :
    ¬ ∀ (tasks : List Task) (s : St), Run (fun s e s' => s' = next s e) init tasks s →
      Sound s ∧ ∀ e, Faithful s e := by
  intro hclaim
  have hsound := (hclaim [tunnel, halfRemoved] _ (.cons rfl (.single rfl))).1
  have hlisted : ∃ e, (next (next init tunnel) halfRemoved).tunnelTable["IPINIP"]? = some e ∧
      e.tunnel_id = 1 ∧ ∃ ip, ⟨2, ip⟩ ∈ e.tunnel_term_info := by
    refine ⟨⟨1, 0, [⟨2, .v4 ⟨[10, 0, 0, 1], rfl⟩⟩, ⟨3, .v4 ⟨[10, 0, 0, 2], rfl⟩⟩]⟩, ?_, rfl,
      .v4 ⟨[10, 0, 0, 1], rfl⟩, List.mem_cons_self⟩
    decide +kernel
  obtain ⟨e, he, hid, ip, hmem⟩ := hlisted
  have hterm := (hsound.terms 2 ⟨1, ip⟩).mpr ⟨"IPINIP", e, he, hid, hmem⟩
  have hgone : (next (next init tunnel) halfRemoved).asic.terms[2]? = none := by decide +kernel
  rw [hgone] at hterm
  cases hterm

end Orchagent.TunnelDecap
