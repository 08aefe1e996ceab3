/-
Orchagent/WatermarkRun.lean

Watermarks over runs: the highest counter since the last clear.

`Watch` keeps beside the state what each watermark is due to be: the highest of the
numbers that were polled since the last clear of its kind in its table.  A script of the
queues passes over a counter that is no number; the others store its text or end with an
error.  The orch clears the objects that were there when it read the ids.  On runs without
such counters and such objects (`Sound`), every watermark is what it is due to be
(`watermarks_are_maxima`).
-/
import Sonic.Orchagent.Watermark

namespace Orchagent.Watermark

open Lua (Value math_max argument Exact)
open Transition (Run Guarded)
open WmTable Stat

/-- What the watermarks are due to be. -/
abbrev Due := WmTable → sai_object_id_t → Stat → Option ℕ

/-- The number of a counter. -/
def numberOf : Option Value → Option ℕ
  | some (.number n) => some n
  | _ => none

/-- A polled number. -/
def Due.raise (d : Due) (table : WmTable) (id : sai_object_id_t) (stat : Stat) (n : ℕ) : Due :=
  fun t o s => if t = table ∧ o = id ∧ s = stat then some (max n ((d t o s).getD 0)) else d t o s

/-- The objects that a request is about. -/
def St.objects (s : St) : ClearRequest → List sai_object_id_t
  | .PG_HEADROOM => s.COUNTERS_PG_INDEX_MAP
  | .PG_SHARED => s.COUNTERS_PG_INDEX_MAP
  | .Q_SHARED_UNI =>
    (s.COUNTERS_QUEUE_TYPE_MAP.filter fun fv => fv.2 = "SAI_QUEUE_TYPE_UNICAST").map Prod.fst
  | .Q_SHARED_MULTI =>
    (s.COUNTERS_QUEUE_TYPE_MAP.filter fun fv => fv.2 ≠ "SAI_QUEUE_TYPE_UNICAST").map Prod.fst
  | .BUFFER_POOL => s.getBufferPoolNameOidMap.entries.map fun it => it.2

/-- The kind of watermark that a request is about is cleared for every object there is. -/
def Due.clear (d : Due) (s : St) (table : WmTable) (request : ClearRequest) : Due :=
  fun t o st => if t = table ∧ st = request.stat ∧ o ∈ s.objects request then some 0 else d t o st

/-- What the watermarks are due to be after an event. -/
def Due.after (d : Due) (s : St) : Event → Due
  | .poll script KEYS => fun t o st =>
    if o ∈ KEYS ∧ st ∈ script.stats then
      match numberOf (s.counters o st) with
      | some n => some (max n ((d t o st).getD 0))
      | none => d t o st
    else d t o st
  | .notification =>
    if s.allPortsReady then
      match s.requests with
      | (op, data) :: _ =>
        match tableOf op, ClearRequest.ofData data with
        | some table, some request => d.clear s table request
        | _, _ => d
      | [] => d
    else d
  | .timer =>
    [.PG_HEADROOM, .PG_SHARED, .Q_SHARED_UNI, .Q_SHARED_MULTI, .BUFFER_POOL].foldl
      (fun d request => d.clear s PERIODIC_WATERMARKS request) d
  | _ => d

/-- The orch with its watermarks, and what they are due to be. -/
structure Watch where
  st : St
  due : Due

def Step (w : Watch) (e : Event) (w' : Watch) : Prop :=
  w' = ⟨w.st.apply e, w.due.after w.st e⟩

/-- Nothing is polled and nothing is there. -/
structure Initial (w : Watch) : Prop where
  watermarks : ∀ t o st, w.st.watermarks t o st = none
  due : ∀ t o st, w.due t o st = none
  COUNTERS_QUEUE_TYPE_MAP : w.st.COUNTERS_QUEUE_TYPE_MAP = []
  m_pg_ids : w.st.m_pg_ids = []
  m_unicast_queue_ids : w.st.m_unicast_queue_ids = []
  m_multicast_queue_ids : w.st.m_multicast_queue_ids = []

/-- The ids that a request clears are not read yet; those of buffer pools are read each time. -/
def St.unread (s : St) : ClearRequest → Bool
  | .PG_HEADROOM | .PG_SHARED => s.m_pg_ids = []
  | .Q_SHARED_UNI | .Q_SHARED_MULTI => s.m_multicast_queue_ids = [] ∧ s.m_unicast_queue_ids = []
  | .BUFFER_POOL => true

/-- The objects that a request is about were there when their ids were read, or the ids are
read now. -/
def St.Caught (s : St) (request : ClearRequest) : Prop :=
  s.unread request ∨ ∀ o ∈ s.objects request, o ∈ s.ids request

/-- A counter that a script can be run on: Lua holds its number as it is, and only the
script of the queues looks whether it is a number. -/
def Script.Readable (script : Script) : Option Value → Prop
  | none => True
  | some (.number n) => Exact n
  | some (.text _) => script = .watermark_queue

/-- The events on which the watermarks stay what they are due to be. -/
def Sound (w : Watch) : Event → Prop
  | .poll script KEYS => ∀ o ∈ KEYS, ∀ st ∈ script.stats, script.Readable (w.st.counters o st)
  | .notification => ∀ op data rest, w.st.allPortsReady → w.st.requests = (op, data) :: rest →
      ∀ request, ClearRequest.ofData data = some request → tableOf op ≠ none → w.st.Caught request
  | .timer => ∀ request, w.st.Caught request
  | .createQueue id _ => id ∉ w.st.COUNTERS_QUEUE_TYPE_MAP.map Prod.fst
  | _ => True

/-! ### A script -/

/-- The watermarks are what they are due to be, in numbers that Lua holds as they are. -/
structure Holds (w : Watermarks) (d : Due) : Prop where
  number : ∀ t o st, w t o st = (d t o st).map Value.number
  exact : ∀ t o st n, d t o st = some n → Exact n

variable {w : Watermarks} {d : Due} {n : ℕ} {id : sai_object_id_t} {stat : Stat} {table : WmTable}

theorem exact_zero : Exact 0 := Lua.exact_of_lt (by omega)

theorem Holds.exact_raise (h : Holds w d) (hn : Exact n) :
    Exact (max n ((d table id stat).getD 0)) := by
  refine hn.max ?_
  cases hd : d table id stat with
  | none => exact exact_zero
  | some last => exact h.exact _ _ _ _ hd

theorem Holds.hset (h : Holds w d) (hn : Exact n)
    {v : Value} (hv : v = .number (max n ((d table id stat).getD 0))) :
    Holds (w.hset table id stat v) (d.raise table id stat n) where
  number := by
    intro t o st
    unfold Watermarks.hset Due.raise
    split
    · next heq =>
        obtain ⟨rfl, rfl, rfl⟩ := heq
        rw [hv]
        rfl
    · exact h.number t o st
  exact := by
    intro t o st m hm
    unfold Due.raise at hm
    split at hm
    · next heq =>
        obtain ⟨rfl, rfl, rfl⟩ := heq
        obtain rfl := Option.some.inj hm
        exact h.exact_raise hn
    · exact h.exact t o st m hm

/-- **A counter raises a watermark**, in the scripts of queues and priority groups. -/
theorem Holds.setMax (h : Holds w d) (hn : Exact n) :
    ∃ w', setMax id stat (.number n) table w = (w', true) ∧ Holds w' (d.raise table id stat n) := by
  unfold Watermark.setMax
  rw [h.number]
  cases hd : d table id stat with
  | none =>
    refine ⟨_, rfl, h.hset hn ?_⟩
    rw [hd, Option.getD_none, Nat.max_zero]
  | some last =>
    have hlast : Exact last := h.exact _ _ _ _ hd
    dsimp only [Option.map_some]
    rw [hn.tonumber, hlast.tonumber]
    refine ⟨_, rfl, h.hset hn ?_⟩
    rw [hd]
    exact (hn.max hlast).argument

/-- **A counter raises a watermark**, in the script of the buffer pools. -/
theorem Holds.setHigher (h : Holds w d) (hn : Exact n) :
    ∃ w', setHigher id stat (.number n) table w = (w', true) ∧ Holds w' (d.raise table id stat n) := by
  unfold Watermark.setHigher
  rw [h.number, hn.tonumber]
  cases hd : d table id stat with
  | none =>
    refine ⟨_, rfl, h.hset hn ?_⟩
    rw [hd, Option.getD_none, Nat.max_zero]
    exact hn.argument
  | some last =>
    have hlast : Exact last := h.exact _ _ _ _ hd
    dsimp only [Option.map_some]
    rw [hlast.tonumber]
    refine ⟨_, rfl, ?_⟩
    split
    · next hlt =>
        refine h.hset hn ?_
        rw [hd, Option.getD_some, Nat.max_eq_left hlt.le]
        exact hn.argument
    · next hle =>
        -- the watermark is as high as the counter already
        have hraise : d.raise table id stat n = d := by
          funext t o st
          unfold Due.raise
          split
          · next heq =>
              obtain ⟨rfl, rfl, rfl⟩ := heq
              rw [hd, Option.getD_some, Nat.max_eq_right (not_lt.mp hle)]
          · rfl
        rw [hraise]
        exact h

theorem runScript_append {l l' : List Command} {w w' : Watermarks} (h : runScript l w = (w', true)) :
    runScript (l ++ l') w = runScript l' w' := by
  induction l generalizing w with
  | nil =>
    cases h
    rfl
  | cons command l ih =>
    rw [runScript] at h
    rw [List.cons_append, runScript]
    dsimp only at h ⊢
    cases hgoes : (command w).2 with
    | false =>
      rw [hgoes, if_neg Bool.false_ne_true] at h
      cases h
    | true =>
      rw [hgoes, if_pos rfl] at h
      rw [if_pos rfl]
      exact ih h

/-- A command for each table, one after the other. -/
theorem runScript_tables {command : WmTable → Command} {a b c : WmTable}
    (hcommand : ∀ {w d table}, Holds w d →
      ∃ w', command table w = (w', true) ∧ Holds w' (d.raise table id stat n))
    (h : Holds w d) :
    ∃ w', runScript ([a, b, c].map command) w = (w', true) ∧
      Holds w' (((d.raise a id stat n).raise b id stat n).raise c id stat n) := by
  obtain ⟨w₁, h₁, hw₁⟩ := @hcommand _ _ a h
  obtain ⟨w₂, h₂, hw₂⟩ := @hcommand _ _ b hw₁
  obtain ⟨w₃, h₃, hw₃⟩ := @hcommand _ _ c hw₂
  refine ⟨w₃, ?_, hw₃⟩
  simp only [List.map_cons, List.map_nil, runScript, h₁, h₂, h₃, if_true]

/-- The watermarks of some fields, raised by what is polled of them. -/
def Due.polled (d : Due) (counters : Counters) (l : List (sai_object_id_t × Stat)) : Due :=
  fun t o st =>
    if (o, st) ∈ l then
      match numberOf (counters o st) with
      | some n => some (max n ((d t o st).getD 0))
      | none => d t o st
    else d t o st

theorem Due.polled_single {counters : Counters} (hn : numberOf (counters id stat) = some n) {a b c : WmTable}
    (hall : ∀ t, t = a ∨ t = b ∨ t = c) (hab : a ≠ b) (hac : a ≠ c) (hbc : b ≠ c) :
    ((d.raise a id stat n).raise b id stat n).raise c id stat n = d.polled counters [(id, stat)] := by
  funext t o st
  unfold Due.raise Due.polled
  simp only [List.mem_singleton, Prod.mk.injEq]
  by_cases hkey : o = id ∧ st = stat
  · obtain ⟨rfl, rfl⟩ := hkey
    rw [hn]
    rcases hall t with rfl | rfl | rfl
    · simp [hab, hac]
    · simp [hab.symm, hbc]
    · simp [hac.symm, hbc.symm]
  · simp [hkey]

/-- What is polled twice counts once. -/
theorem Due.polled_cons (counters : Counters) (p : sai_object_id_t × Stat)
    (l : List (sai_object_id_t × Stat)) :
    (d.polled counters [p]).polled counters l = d.polled counters (p :: l) := by
  funext t o st
  unfold Due.polled
  simp only [List.mem_singleton]
  by_cases hl : (o, st) ∈ l
  · rw [if_pos hl, if_pos (List.mem_cons_of_mem p hl)]
    cases numberOf (counters o st) with
    | none => exact ite_self _
    | some n =>
      dsimp only
      split
      · rw [Option.getD_some, ← max_assoc, max_self]
      · rfl
  · rw [if_neg hl]
    split
    · next hp => rw [if_pos (List.mem_cons.mpr (.inl hp))]
    · next hp => rw [if_neg fun h => (List.mem_cons.mp h).elim hp hl]

/-- **What a script does with a counter.** -/
theorem Holds.commands {script : Script} {counters : Counters} (h : Holds w d)
    (hread : script.Readable (counters id stat)) :
    ∃ w', runScript (script.body counters id stat) w = (w', true) ∧
      Holds w' (d.polled counters [(id, stat)]) := by
  have hskip : numberOf (counters id stat) = none → d.polled counters [(id, stat)] = d := by
    intro hnone
    funext t o st
    unfold Due.polled
    split
    · next hmem =>
        obtain ⟨rfl, rfl⟩ := Prod.mk.inj (List.mem_singleton.mp hmem)
        rw [hnone]
    · rfl
  unfold Script.body
  cases hc : counters id stat with
  | none =>
    rw [hskip (by rw [hc]; rfl)]
    exact ⟨w, rfl, h⟩
  | some wm =>
    rw [hc] at hread
    cases wm with
    | text text =>
      obtain rfl : script = .watermark_queue := hread
      rw [hskip (by rw [hc]; rfl)]
      exact ⟨w, rfl, h⟩
    | number n =>
      have hn : Exact n := hread
      have hnumber : numberOf (counters id stat) = some n := by
        rw [hc]
        rfl
      -- the order of the tables does not matter
      have hpolled : ∀ {a b c : WmTable}, (∀ t, t = a ∨ t = b ∨ t = c) → a ≠ b → a ≠ c → b ≠ c →
          ((d.raise a id stat n).raise b id stat n).raise c id stat n
            = d.polled counters [(id, stat)] := Due.polled_single hnumber
      cases script with
      | watermark_queue =>
        rw [← @hpolled PERIODIC_WATERMARKS PERSISTENT_WATERMARKS USER_WATERMARKS
          (by rintro (_ | _ | _) <;> decide) nofun nofun nofun]
        exact runScript_tables (fun h => h.setMax hn) h
      | watermark_pg =>
        rw [← @hpolled PERIODIC_WATERMARKS PERSISTENT_WATERMARKS USER_WATERMARKS
          (by rintro (_ | _ | _) <;> decide) nofun nofun nofun]
        exact runScript_tables (fun h => h.setMax hn) h
      | watermark_bufferpool =>
        rw [← @hpolled USER_WATERMARKS PERSISTENT_WATERMARKS PERIODIC_WATERMARKS
          (by rintro (_ | _ | _) <;> decide) nofun nofun nofun]
        exact runScript_tables (fun h => h.setHigher hn) h

/-- **A script raises what it polls**, and no error ends it. -/
theorem Holds.runScript {script : Script} {counters : Counters} {KEYS : List sai_object_id_t}
    (h : Holds w d)
    (hread : ∀ o ∈ KEYS, ∀ st ∈ script.stats, script.Readable (counters o st)) :
    ∃ w', runScript (script.loop counters KEYS) w = (w', true) ∧
      Holds w' (d.polled counters (KEYS.reverse.product script.stats)) := by
  have hloop : script.loop counters KEYS = (KEYS.reverse.product script.stats).flatMap fun p =>
      script.body counters p.1 p.2 := by
    unfold Script.loop List.product
    rw [List.flatMap_assoc]
    refine List.flatMap_congr fun id _ => ?_
    rw [List.flatMap_map]
  have hread' : ∀ p ∈ KEYS.reverse.product script.stats, script.Readable (counters p.1 p.2) := by
    intro p hp
    obtain ⟨ho, hst⟩ := List.mem_product.mp hp
    exact hread p.1 (List.mem_reverse.mp ho) p.2 hst
  rw [hloop]
  clear hloop hread
  generalize KEYS.reverse.product script.stats = l at hread'
  induction l generalizing w d with
  | nil => exact ⟨w, rfl, h⟩
  | cons p l ih =>
    obtain ⟨hp, hl⟩ := List.forall_mem_cons.mp hread'
    obtain ⟨w₁, h₁, hw₁⟩ := h.commands hp
    obtain ⟨w₂, h₂, hw₂⟩ := ih hw₁ hl
    refine ⟨w₂, ?_, ?_⟩
    · rw [List.flatMap_cons, runScript_append h₁]
      exact h₂
    · rw [← Due.polled_cons]
      exact hw₂

/-! ### Clearing -/

theorem foldl_hset (obj_ids : List sai_object_id_t) (w : Watermarks) (t : WmTable)
    (o : sai_object_id_t) (st : Stat) :
    obj_ids.foldl (fun w id => w.hset table id stat (.number 0)) w t o st
      = if t = table ∧ st = stat ∧ o ∈ obj_ids then some (.number 0) else w t o st := by
  induction obj_ids generalizing w with
  | nil => rw [List.foldl_nil, if_neg fun h => List.not_mem_nil h.2.2]
  | cons id obj_ids ih =>
    rw [List.foldl_cons, ih]
    unfold Watermarks.hset
    simp only [List.mem_cons]
    grind

variable {s : St} {request : ClearRequest}

/-- **A kind of watermark is cleared in a table**, for the objects that there are. -/
theorem Holds.clear (h : Holds s.watermarks d) {s₀ : St}
    (hids : ∀ o, o ∈ s.ids request ↔ o ∈ s₀.objects request) :
    Holds (s.clear table request).watermarks (d.clear s₀ table request) where
  number := by
    intro t o st
    show (s.ids request).foldl (fun w id => w.hset table id request.stat (.number 0)) s.watermarks
      t o st = _
    rw [foldl_hset]
    unfold Due.clear
    simp only [hids o]
    split
    · rfl
    · exact h.number t o st
  exact := by
    intro t o st m hm
    unfold Due.clear at hm
    split at hm
    · obtain rfl := Option.some.inj hm
      exact exact_zero
    · exact h.exact t o st m hm

namespace St

/-- The ids that the orch knows are those of objects that are there. -/
def Known (s : St) : Prop := ∀ request, ∀ o ∈ s.ids request, o ∈ s.objects request

theorem watermarks_initIds : s.initIds.watermarks = s.watermarks := by
  unfold initIds init_pg_ids init_queue_ids
  dsimp only
  split_ifs
  · rfl
  · rfl
  · rfl
  · rfl

theorem objects_initIds : s.initIds.objects = s.objects := by
  unfold initIds init_pg_ids init_queue_ids
  dsimp only
  split_ifs
  · rfl
  · rfl
  · rfl
  · rfl

/-- The ids are read when there are none. -/
theorem ids_initIds (s : St) (request : ClearRequest) :
    s.initIds.ids request = if s.unread request then s.objects request else s.ids request := by
  unfold initIds init_pg_ids init_queue_ids
  dsimp only
  cases request <;> split_ifs <;> simp_all [ids, objects, unread]

theorem Known.initIds (h : s.Known) : s.initIds.Known := by
  intro request o ho
  rw [objects_initIds]
  rw [ids_initIds] at ho
  split at ho
  · exact ho
  · exact h request o ho

theorem Known.of_objects {s' : St} (h : s.Known) (hids : ∀ request, s'.ids request = s.ids request)
    (hobjects : ∀ request, s.objects request ⊆ s'.objects request) : s'.Known := by
  intro request o ho
  rw [hids] at ho
  exact hobjects request (h request o ho)

theorem ids_clear (r : ClearRequest) : (s.clear table request).ids r = s.ids r := by
  cases r <;> rfl

theorem objects_clear (r : ClearRequest) : (s.clear table request).objects r = s.objects r := by
  cases r <;> rfl

/-- The objects that a request is about are known when it is handled. -/
theorem Caught.mem_ids_iff (h : s.Caught request) (hknown : s.Known) (o : sai_object_id_t) :
    o ∈ s.initIds.ids request ↔ o ∈ s.objects request := by
  rw [ids_initIds]
  split
  · exact Iff.rfl
  · next hread => exact ⟨hknown request o, h.resolve_left hread o⟩

end St

/-- The timer clears one kind after the other. -/
theorem Holds.foldl_clear {s₀ : St} (l : List ClearRequest) (h : Holds s.watermarks d)
    (hids : ∀ request o, o ∈ s.ids request ↔ o ∈ s₀.objects request) :
    Holds (l.foldl (fun s request => s.clear table request) s).watermarks
      (l.foldl (fun d request => d.clear s₀ table request) d) := by
  induction l generalizing s d with
  | nil => exact h
  | cons request l ih =>
    refine ih (h.clear (hids request)) fun r o => ?_
    rw [St.ids_clear]
    exact hids r o

theorem foldl_clear_known (l : List ClearRequest) (h : s.Known) :
    (l.foldl (fun s request => s.clear table request) s).Known := by
  induction l generalizing s with
  | nil => exact h
  | cons request l ih =>
    refine ih (h.of_objects St.ids_clear fun r => ?_)
    rw [St.objects_clear]
    exact List.Subset.refl _

/-! ### Runs -/

/-- What every event keeps. -/
structure Kept (w : Watch) : Prop where
  holds : Holds w.st.watermarks w.due
  known : w.st.Known

variable {x y : Watch} {e : Event} {es : List Event}

theorem kept_of_initial (h : Initial x) : Kept x where
  holds := by
    refine ⟨fun t o st => ?_, fun t o st n hn => ?_⟩
    · rw [h.watermarks, h.due]
      rfl
    · rw [h.due] at hn
      cases hn
  known := by
    intro request o ho
    cases request with
    | PG_HEADROOM =>
      rw [St.ids, h.m_pg_ids] at ho
      cases ho
    | PG_SHARED =>
      rw [St.ids, h.m_pg_ids] at ho
      cases ho
    | Q_SHARED_UNI =>
      rw [St.ids, h.m_unicast_queue_ids] at ho
      cases ho
    | Q_SHARED_MULTI =>
      rw [St.ids, h.m_multicast_queue_ids] at ho
      cases ho
    | BUFFER_POOL => exact ho

/-- **A poll raises the watermarks as it is due.** -/
theorem kept_poll {script : Script} {KEYS : List sai_object_id_t} (h : Kept x)
    (hsound : Sound x (.poll script KEYS)) :
    Kept ⟨x.st.apply (.poll script KEYS), x.due.after x.st (.poll script KEYS)⟩ := by
  obtain ⟨w', hrun, hholds⟩ := h.holds.runScript hsound
  refine ⟨?_, h.known⟩
  have hdue : x.due.polled x.st.counters (KEYS.reverse.product script.stats)
      = x.due.after x.st (.poll script KEYS) := by
    funext t o st
    have hmem : (o, st) ∈ KEYS.reverse.product script.stats ↔ o ∈ KEYS ∧ st ∈ script.stats :=
      List.mem_product.trans (and_congr_left fun _ => List.mem_reverse)
    exact if_congr hmem rfl rfl
  show Holds (runScript (script.loop x.st.counters KEYS) x.st.watermarks).1 _
  rw [hrun, ← hdue]
  exact hholds

/-- **A request clears what it is due to clear**, when it is handled. -/
theorem kept_notification (h : Kept x) (hsound : Sound x .notification) :
    Kept ⟨x.st.apply .notification, x.due.after x.st .notification⟩ := by
  have hinit : Holds x.st.initIds.watermarks x.due := by
    rw [St.watermarks_initIds]
    exact h.holds
  show Kept ⟨x.st.doNotification, _⟩
  unfold St.doNotification Due.after
  dsimp only
  cases hready : x.st.allPortsReady with
  | false => exact h
  | true =>
    rw [if_neg (by decide), if_pos rfl]
    cases hrequests : x.st.requests with
    | nil => exact ⟨hinit, h.known.initIds⟩
    | cons first rest =>
      obtain ⟨op, data⟩ := first
      have hids : ∀ r, ({ x.st.initIds with requests := rest } : St).ids r
          = x.st.initIds.ids r := by
        intro r
        cases r <;> rfl
      have hrest : ({ x.st.initIds with requests := rest } : St).Known := by
        refine h.known.initIds.of_objects hids fun r => ?_
        cases r <;> exact List.Subset.refl _
      dsimp only
      cases htable : tableOf op with
      | none => exact ⟨hinit, hrest⟩
      | some table =>
        cases hrequest : ClearRequest.ofData data with
        | none => exact ⟨hinit, hrest⟩
        | some request =>
          have hcaught := hsound op data rest hready hrequests request hrequest
            (by rw [htable]; nofun)
          refine ⟨?_, ?_⟩
          · refine Holds.clear (s := { x.st.initIds with requests := rest }) hinit fun o => ?_
            rw [hids]
            exact hcaught.mem_ids_iff h.known o
          · exact foldl_clear_known [request] hrest

/-- **The timer clears the periodic watermarks.** -/
theorem kept_timer (h : Kept x) (hsound : Sound x .timer) :
    Kept ⟨x.st.apply .timer, x.due.after x.st .timer⟩ := by
  have hinit : Holds x.st.initIds.watermarks x.due := by
    rw [St.watermarks_initIds]
    exact h.holds
  refine ⟨?_, ?_⟩
  · exact hinit.foldl_clear _ fun request o => (hsound request).mem_ids_iff h.known o
  · exact foldl_clear_known _ h.known.initIds

/-- **Every sound event keeps the watermarks what they are due to be.** -/
theorem kept_step (h : Kept x) (hsound : Sound x e) (hstep : Step x e y) : Kept y := by
  -- the ids that are known stay, and so do the objects
  have hkept : ∀ s' : St, s'.watermarks = x.st.watermarks →
      (∀ request, s'.ids request = x.st.ids request) →
      (∀ request, x.st.objects request ⊆ s'.objects request) → Kept ⟨s', x.due⟩ :=
    fun s' hw hids hobjects => ⟨by rw [hw]; exact h.holds, h.known.of_objects hids hobjects⟩
  rw [hstep]
  cases e with
  | poll script KEYS => exact kept_poll h hsound
  | notification => exact kept_notification h hsound
  | timer => exact kept_timer h hsound
  | counter id stat value =>
    refine hkept _ rfl (fun r => ?_) fun r => ?_
    · cases r <;> rfl
    · cases r <;> exact List.Subset.refl _
  | request op data =>
    refine hkept _ rfl (fun r => ?_) fun r => ?_
    · cases r <;> rfl
    · cases r <;> exact List.Subset.refl _
  | allPortsReady ready =>
    refine hkept _ rfl (fun r => ?_) fun r => ?_
    · cases r <;> rfl
    · cases r <;> exact List.Subset.refl _
  | createPg id =>
    refine hkept _ rfl (fun r => ?_) fun r => ?_
    · cases r <;> rfl
    · cases r with
      | PG_HEADROOM => exact List.subset_append_left _ _
      | PG_SHARED => exact List.subset_append_left _ _
      | Q_SHARED_UNI => exact List.Subset.refl _
      | Q_SHARED_MULTI => exact List.Subset.refl _
      | BUFFER_POOL => exact List.Subset.refl _
  | createQueue id type =>
    refine hkept _ rfl (fun r => ?_) fun r => ?_
    · cases r <;> rfl
    · have hgrows : ∀ p : sai_object_id_t × String → Bool,
          (x.st.COUNTERS_QUEUE_TYPE_MAP.filter p).map Prod.fst
            ⊆ ((x.st.COUNTERS_QUEUE_TYPE_MAP ++ [(id, type)]).filter p).map Prod.fst := by
        intro p
        rw [List.filter_append, List.map_append]
        exact List.subset_append_left _ _
      cases r with
      | PG_HEADROOM => exact List.Subset.refl _
      | PG_SHARED => exact List.Subset.refl _
      | Q_SHARED_UNI => exact hgrows _
      | Q_SHARED_MULTI => exact hgrows _
      | BUFFER_POOL => exact List.Subset.refl _
  | createPool name id =>
    refine ⟨h.holds, fun r o ho => ?_⟩
    cases r with
    | PG_HEADROOM => exact h.known .PG_HEADROOM o ho
    | PG_SHARED => exact h.known .PG_SHARED o ho
    | Q_SHARED_UNI => exact h.known .Q_SHARED_UNI o ho
    | Q_SHARED_MULTI => exact h.known .Q_SHARED_MULTI o ho
    | BUFFER_POOL => exact ho

/-- **Watermarks are maxima since the last clear**, along every run of sound events. -/
theorem watermarks_are_maxima (hinit : Initial x) (hrun : Run (Guarded Sound Step) x es y) :
    ∀ table id stat, y.st.watermarks table id stat = (y.due table id stat).map Value.number :=
  (hrun.keeps (kept_of_initial hinit) fun h hstep => kept_step h hstep.1 hstep.2).holds.number

/-! ### A run with a clear, and one with a text -/

/-- The start. -/
def start : Watch where
  st :=
    { counters := fun _ _ => none
      watermarks := fun _ _ _ => none
      COUNTERS_PG_INDEX_MAP := []
      COUNTERS_QUEUE_TYPE_MAP := []
      getBufferPoolNameOidMap := ∅
      allPortsReady := false
      requests := []
      m_pg_ids := []
      m_unicast_queue_ids := []
      m_multicast_queue_ids := [] }
  due := fun _ _ _ => none

theorem initial_start : Initial start := ⟨fun _ _ _ => rfl, fun _ _ _ => rfl, rfl, rfl, rfl, rfl⟩

def Watch.next (w : Watch) (e : Event) : Watch := ⟨w.st.apply e, w.due.after w.st e⟩

/-- A priority group is polled and cleared, and a queue without a number. -/
def pollAndClear : List Event :=
  [.createPg 1, .createQueue 2 "SAI_QUEUE_TYPE_UNICAST", .allPortsReady true,
    .counter 1 SAI_INGRESS_PRIORITY_GROUP_STAT_XOFF_ROOM_WATERMARK_BYTES (some (.number 7)),
    .counter 2 SAI_QUEUE_STAT_SHARED_WATERMARK_BYTES (some (.text "N/A")),
    .poll .watermark_pg [1], .poll .watermark_queue [2], .request "USER" "PG_HEADROOM",
    .notification]

theorem sound_pollAndClear : Transition.Meets Sound Watch.next start pollAndClear := by
  refine ⟨trivial, List.not_mem_nil, trivial, trivial, trivial, ?_, ?_, trivial, ?_, trivial⟩
  · intro o ho st hst
    obtain rfl := List.mem_singleton.mp ho
    rcases List.mem_pair.mp hst with rfl | rfl
    · exact trivial
    · exact Lua.exact_of_lt (by omega)
  · intro o ho st hst
    obtain rfl := List.mem_singleton.mp ho
    obtain rfl := List.mem_singleton.mp hst
    exact rfl
  · intro op data rest _ _ request _ _
    -- nothing was cleared before
    left
    cases request <;> rfl

theorem watermarks_are_maxima_pollAndClear :
    (pollAndClear.foldl Watch.next start).st.watermarks PERIODIC_WATERMARKS 1
        SAI_INGRESS_PRIORITY_GROUP_STAT_XOFF_ROOM_WATERMARK_BYTES = some (.number 7) :=
  (watermarks_are_maxima initial_start (Run.guarded_foldl sound_pollAndClear) PERIODIC_WATERMARKS 1
    SAI_INGRESS_PRIORITY_GROUP_STAT_XOFF_ROOM_WATERMARK_BYTES).trans (by decide)

/-- A priority group whose counter is no number is polled. -/
def pollText : List Event :=
  [.createPg 1,
    .counter 1 SAI_INGRESS_PRIORITY_GROUP_STAT_SHARED_WATERMARK_BYTES (some (.text "N/A")),
    .poll .watermark_pg [1]]

/-- **A watermark may be a text.** -/
theorem not_watermarks_are_maxima :
    ¬ ∀ (x : Watch) (es : List Event) (y : Watch), Initial x → Run Step x es y →
      ∀ table id stat, y.st.watermarks table id stat = (y.due table id stat).map Value.number := by
  intro h
  have htext := h start pollText _ initial_start (Run.foldl (f := Watch.next) start pollText)
    USER_WATERMARKS 1 SAI_INGRESS_PRIORITY_GROUP_STAT_SHARED_WATERMARK_BYTES
  exact absurd htext (by decide)

end Orchagent.Watermark
