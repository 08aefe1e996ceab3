/-
Sai/MetaKey.lean

Object keys of the SAI codec: `sai_serialize_object_meta_key` and its inverse.

A key is the name of the object type, a colon, and an object id or the members of an
entry as JSON.  The name has no colon, so the text is split where it was put together,
and the members are read back one by one.  A route whose mask is mixed is the only
entry that is not written.
-/
import Sonic.Lib.Json
import Sonic.Sai.Enum

namespace Sai

open Numeral IntType Json

abbrev sai_object_type_t := IntType.int32.Value

def SAI_OBJECT_TYPE_NULL : ℤ := 0
def SAI_OBJECT_TYPE_FDB_ENTRY : ℤ := 32
def SAI_OBJECT_TYPE_NEIGHBOR_ENTRY : ℤ := 36
def SAI_OBJECT_TYPE_ROUTE_ENTRY : ℤ := 37
def SAI_OBJECT_TYPE_MAX : ℤ := 87

/-- The tables that are generated from the SAI headers, as far as keys need them. -/
structure SaiMetadata where
  enum_sai_object_type_t : sai_enum_metadata_t
  /-- `SAI_OBJECT_TYPE_EXTENSIONS_MAX`. -/
  extensionsMax : ℤ
  /-- The member of `sai_metadata_get_object_type_info`. -/
  isnonobjectid : sai_object_type_t → Bool
  max_le : SAI_OBJECT_TYPE_MAX ≤ extensionsMax

structure sai_fdb_entry_t where
  switch_id : sai_object_id_t
  mac_address : sai_mac_t
  bv_id : sai_object_id_t
  deriving DecidableEq

structure sai_neighbor_entry_t where
  switch_id : sai_object_id_t
  rif_id : sai_object_id_t
  ip_address : sai_ip_address_t
  deriving DecidableEq

structure sai_route_entry_t where
  switch_id : sai_object_id_t
  vr_id : sai_object_id_t
  destination : sai_ip_prefix_t
  deriving DecidableEq

/-- The members of the union of keys. -/
inductive sai_object_key_t where
  | object_id (oid : sai_object_id_t)
  | fdb_entry (entry : sai_fdb_entry_t)
  | neighbor_entry (entry : sai_neighbor_entry_t)
  | route_entry (entry : sai_route_entry_t)
  deriving DecidableEq

/-- The member of the union that an object type uses. -/
def sai_object_key_t.Of : sai_object_key_t → ℤ → Prop
  | .object_id _, objecttype =>
    objecttype ≠ SAI_OBJECT_TYPE_FDB_ENTRY ∧ objecttype ≠ SAI_OBJECT_TYPE_ROUTE_ENTRY ∧
      objecttype ≠ SAI_OBJECT_TYPE_NEIGHBOR_ENTRY
  | .fdb_entry _, objecttype => objecttype = SAI_OBJECT_TYPE_FDB_ENTRY
  | .neighbor_entry _, objecttype => objecttype = SAI_OBJECT_TYPE_NEIGHBOR_ENTRY
  | .route_entry _, objecttype => objecttype = SAI_OBJECT_TYPE_ROUTE_ENTRY

/-- A key, with the member of the union that belongs to its type. -/
structure sai_object_meta_key_t where
  objecttype : sai_object_type_t
  objectkey : sai_object_key_t
  typed : objectkey.Of objecttype.1

/-! ### Writing -/

/-- `sai_serialize_fdb_entry`. -/
def sai_serialize_fdb_entry (fdb_entry : sai_fdb_entry_t) : List Char :=
  dump (Json.null
    |> set "switch_id".toList (.string (sai_serialize_object_id fdb_entry.switch_id))
    |> set "mac".toList (.string (sai_serialize_mac fdb_entry.mac_address))
    |> set "bvid".toList (.string (sai_serialize_object_id fdb_entry.bv_id)))

/-- `sai_serialize_neighbor_entry`. -/
def sai_serialize_neighbor_entry (ne : sai_neighbor_entry_t) : List Char :=
  dump (Json.null
    |> set "switch_id".toList (.string (sai_serialize_object_id ne.switch_id))
    |> set "rif".toList (.string (sai_serialize_object_id ne.rif_id))
    |> set "ip".toList (.string (sai_serialize_ip_address ne.ip_address)))

/-- `sai_serialize_route_entry`, which throws for a mixed mask. -/
def sai_serialize_route_entry (route_entry : sai_route_entry_t) : Option (List Char) :=
  ( sai_serialize_ip_prefix route_entry.destination).map fun dest =>
    dump (Json.null
      |> set "switch_id".toList (.string (sai_serialize_object_id route_entry.switch_id))
      |> set "vr".toList (.string (sai_serialize_object_id route_entry.vr_id))
      |> set "dest".toList (.string dest))

variable (M : SaiMetadata)

/-- `sai_metadata_is_object_type_valid`. -/
def SaiMetadata.Valid (objecttype : sai_object_type_t) : Prop :=
  SAI_OBJECT_TYPE_NULL < objecttype.1 ∧ objecttype.1 < M.extensionsMax

instance (objecttype : sai_object_type_t) : Decidable (M.Valid objecttype) :=
  inferInstanceAs (Decidable (_ ∧ _))

/-- `sai_serialize_object_type`. -/
def sai_serialize_object_type (objecttype : sai_object_type_t) : List Char :=
  sai_serialize_enum objecttype (some M.enum_sai_object_type_t)

/-- `sai_serialize_object_meta_key`. -/
def sai_serialize_object_meta_key (meta_key : sai_object_meta_key_t) : Option (List Char) :=
  if M.Valid meta_key.objecttype then
    let key :=
      match meta_key.objectkey with
      | .fdb_entry entry => some (sai_serialize_fdb_entry entry)
      | .route_entry entry => sai_serialize_route_entry entry
      | .neighbor_entry entry => some (sai_serialize_neighbor_entry entry)
      | .object_id oid =>
        -- other entries are not supported
        if M.isnonobjectid meta_key.objecttype then none else some (sai_serialize_object_id oid)
    key.map fun key => sai_serialize_object_type M meta_key.objecttype ++ ':' :: key
  else none

/-! ### Reading -/

/-- A member that is a string, read by a decoder. -/
def member {α : Type} (j : Json) (key : String) (read : List Char → Option α) : Option α :=
  (toString? (get key.toList j)).bind read

/-- `sai_deserialize_fdb_entry`. -/
def sai_deserialize_fdb_entry (s : List Char) : Option sai_fdb_entry_t :=
  (parse s).bind fun j =>
    (member j "switch_id" sai_deserialize_object_id).bind fun switch_id =>
      (member j "mac" sai_deserialize_mac).bind fun mac_address =>
        (member j "bvid" sai_deserialize_object_id).map fun bv_id =>
          ⟨switch_id, mac_address, bv_id⟩

/-- `sai_deserialize_neighbor_entry`. -/
def sai_deserialize_neighbor_entry (s : List Char) : Option sai_neighbor_entry_t :=
  (parse s).bind fun j =>
    (member j "switch_id" sai_deserialize_object_id).bind fun switch_id =>
      (member j "rif" sai_deserialize_object_id).bind fun rif_id =>
        (member j "ip" sai_deserialize_ip_address).map fun ip_address =>
          ⟨switch_id, rif_id, ip_address⟩

/-- `sai_deserialize_route_entry`. -/
def sai_deserialize_route_entry (s : List Char) : Option sai_route_entry_t :=
  (parse s).bind fun j =>
    (member j "switch_id" sai_deserialize_object_id).bind fun switch_id =>
      (member j "vr" sai_deserialize_object_id).bind fun vr_id =>
        (member j "dest" sai_deserialize_ip_prefix).map fun destination =>
          ⟨switch_id, vr_id, destination⟩

/-- `sai_deserialize_object_type`. -/
def sai_deserialize_object_type (s : List Char) : Option sai_object_type_t :=
  sai_deserialize_enum s (some M.enum_sai_object_type_t)

/-- `s.substr(s.find(":") + 1)`: the whole text if there is no colon. -/
def afterColon (s : List Char) : List Char :=
  if ':' ∈ s then (s.dropWhile (· ≠ ':')).tail else s

/-- `sai_deserialize_object_meta_key`. -/
def sai_deserialize_object_meta_key (s : List Char) : Option sai_object_meta_key_t :=
  let str_object_type := s.takeWhile (· ≠ ':')
  let str_object_id := afterColon s
  (sai_deserialize_object_type M str_object_type).bind fun objecttype =>
    if M.Valid objecttype then
      if hfdb : objecttype.1 = SAI_OBJECT_TYPE_FDB_ENTRY then
        (sai_deserialize_fdb_entry str_object_id).map fun entry =>
          ⟨objecttype, .fdb_entry entry, hfdb⟩
      else if hroute : objecttype.1 = SAI_OBJECT_TYPE_ROUTE_ENTRY then
        (sai_deserialize_route_entry str_object_id).map fun entry =>
          ⟨objecttype, .route_entry entry, hroute⟩
      else if hneighbor : objecttype.1 = SAI_OBJECT_TYPE_NEIGHBOR_ENTRY then
        (sai_deserialize_neighbor_entry str_object_id).map fun entry =>
          ⟨objecttype, .neighbor_entry entry, hneighbor⟩
      else if M.isnonobjectid objecttype then none
      else
        (sai_deserialize_object_id str_object_id).map fun oid =>
          ⟨objecttype, .object_id oid, hfdb, hroute, hneighbor⟩
    else none

/-! ### Entries are read back -/

/-- An object of three strings, in the order of its keys, is read back. -/
theorem parse_dump_strings {key₁ key₂ key₃ : String} {s₁ s₂ s₃ : List Char}
    (h₁ : key₁.toList < key₂.toList) (h₂ : key₂.toList < key₃.toList) :
    parse (dump (.object [(key₁.toList, .string s₁), (key₂.toList, .string s₂),
        (key₃.toList, .string s₃)]))
      = some (.object [(key₁.toList, .string s₁), (key₂.toList, .string s₂),
        (key₃.toList, .string s₃)]) := by
  apply parse_dump
  refine ⟨?_, trivial, trivial, trivial, trivial⟩
  simp [h₁, h₂, List.lt_trans h₁ h₂]

theorem sai_deserialize_serialize_fdb_entry (entry : sai_fdb_entry_t) :
    sai_deserialize_fdb_entry (sai_serialize_fdb_entry entry) = some entry := by
  have htext : sai_serialize_fdb_entry entry
      = dump (.object [("bvid".toList, .string (sai_serialize_object_id entry.bv_id)),
          ("mac".toList, .string (sai_serialize_mac entry.mac_address)),
          ("switch_id".toList, .string (sai_serialize_object_id entry.switch_id))]) := rfl
  rw [htext, sai_deserialize_fdb_entry, parse_dump_strings (by decide) (by decide)]
  show (sai_deserialize_object_id (sai_serialize_object_id entry.switch_id)).bind (fun switch_id =>
    (sai_deserialize_mac (sai_serialize_mac entry.mac_address)).bind fun mac_address =>
      (sai_deserialize_object_id (sai_serialize_object_id entry.bv_id)).map fun bv_id =>
        sai_fdb_entry_t.mk switch_id mac_address bv_id) = some entry
  simp only [sai_deserialize_serialize_object_id, sai_deserialize_serialize_mac,
    Option.bind_some, Option.map_some]

theorem sai_deserialize_serialize_neighbor_entry (entry : sai_neighbor_entry_t) :
    sai_deserialize_neighbor_entry (sai_serialize_neighbor_entry entry) = some entry := by
  have htext : sai_serialize_neighbor_entry entry
      = dump (.object [("ip".toList, .string (sai_serialize_ip_address entry.ip_address)),
          ("rif".toList, .string (sai_serialize_object_id entry.rif_id)),
          ("switch_id".toList, .string (sai_serialize_object_id entry.switch_id))]) := rfl
  rw [htext, sai_deserialize_neighbor_entry, parse_dump_strings (by decide) (by decide)]
  show (sai_deserialize_object_id (sai_serialize_object_id entry.switch_id)).bind (fun switch_id =>
    (sai_deserialize_object_id (sai_serialize_object_id entry.rif_id)).bind fun rif_id =>
      (sai_deserialize_ip_address (sai_serialize_ip_address entry.ip_address)).map fun ip_address =>
        sai_neighbor_entry_t.mk switch_id rif_id ip_address) = some entry
  simp only [sai_deserialize_serialize_object_id, sai_deserialize_serialize_ip_address,
    Option.bind_some, Option.map_some]

theorem sai_deserialize_serialize_route_entry {entry : sai_route_entry_t} {text : List Char}
    (h : sai_serialize_route_entry entry = some text) :
    sai_deserialize_route_entry text = some entry := by
  obtain ⟨dest, hdest, rfl⟩ := Option.map_eq_some_iff.mp h
  have htext : (Json.null
      |> set "switch_id".toList (.string (sai_serialize_object_id entry.switch_id))
      |> set "vr".toList (.string (sai_serialize_object_id entry.vr_id))
      |> set "dest".toList (.string dest))
      = .object [("dest".toList, .string dest),
          ("switch_id".toList, .string (sai_serialize_object_id entry.switch_id)),
          ("vr".toList, .string (sai_serialize_object_id entry.vr_id))] := rfl
  rw [htext, sai_deserialize_route_entry, parse_dump_strings (by decide) (by decide)]
  show (sai_deserialize_object_id (sai_serialize_object_id entry.switch_id)).bind (fun switch_id =>
    (sai_deserialize_object_id (sai_serialize_object_id entry.vr_id)).bind fun vr_id =>
      ( sai_deserialize_ip_prefix dest).map fun destination =>
        sai_route_entry_t.mk switch_id vr_id destination) = some entry
  simp only [sai_deserialize_serialize_object_id, sai_deserialize_serialize_ip_prefix hdest,
    Option.bind_some, Option.map_some]

/-! ### Keys are read back -/

/-- The mask of a prefix is mixed. -/
def sai_ip_prefix_t.MaskMixed : sai_ip_prefix_t → Prop
  | .ipv4 _ mask => Mixed mask
  | .ipv6 _ mask => Mixed mask

/-- **A prefix is not written exactly if its mask is mixed.** -/
theorem sai_serialize_ip_prefix_eq_none {p : sai_ip_prefix_t} :
    sai_serialize_ip_prefix p = none ↔ p.MaskMixed := by
  cases p with
  | ipv4 addr mask =>
    rw [ sai_serialize_ip_prefix, Option.map_eq_none_iff]
    exact (get_ip_mask_spec mask).2
  | ipv6 addr mask =>
    rw [ sai_serialize_ip_prefix, Option.map_eq_none_iff]
    exact (get_ip_mask_spec mask).2

/-- The keys of the supported types: ids of objects, FDB and neighbor entries, and
routes whose mask is not mixed. -/
def Supported (meta_key : sai_object_meta_key_t) : Prop :=
  match meta_key.objectkey with
  | .object_id _ => M.Valid meta_key.objecttype ∧ M.isnonobjectid meta_key.objecttype = false
  | .route_entry entry => ¬ entry.destination.MaskMixed
  | .fdb_entry _ | .neighbor_entry _ => True

variable {M} {meta_key meta_key' : sai_object_meta_key_t}

theorem colon_not_mem_object_type (objecttype : sai_object_type_t) :
    ':' ∉ sai_serialize_object_type M objecttype :=
  fun hmem => (enumChar_ne (mem_sai_serialize_enum hmem)).2.1 rfl

/-- The text of a key is split at its first colon. -/
theorem split_at_colon {name rest : List Char} (h : ':' ∉ name) :
    (name ++ ':' :: rest).takeWhile (· ≠ ':') = name ∧ afterColon (name ++ ':' :: rest) = rest := by
  obtain ⟨htake, hdrop⟩ := Swss.span_of_not_mem h rest
  refine ⟨htake, ?_⟩
  rw [afterColon, if_pos (by simp), hdrop]

theorem sai_deserialize_serialize_object_type (objecttype : sai_object_type_t) :
    sai_deserialize_object_type M (sai_serialize_object_type M objecttype) = some objecttype :=
  sai_deserialize_serialize_enum objecttype _

/-- The types of entries are valid. -/
theorem valid_of_lt {objecttype : sai_object_type_t} (hnull : SAI_OBJECT_TYPE_NULL < objecttype.1)
    (hmax : objecttype.1 < SAI_OBJECT_TYPE_MAX) : M.Valid objecttype :=
  ⟨hnull, hmax.trans_le M.max_le⟩

/-- **A supported key is written, and read back.** -/
theorem exists_sai_serialize_object_meta_key (h : Supported M meta_key) :
    ∃ text, sai_serialize_object_meta_key M meta_key = some text ∧
      sai_deserialize_object_meta_key M text = some meta_key := by
  obtain ⟨objecttype, objectkey, typed⟩ := meta_key
  have hread : ∀ key, (sai_serialize_object_type M objecttype ++ ':' :: key).takeWhile (· ≠ ':')
        = sai_serialize_object_type M objecttype ∧
      afterColon (sai_serialize_object_type M objecttype ++ ':' :: key) = key :=
    fun key => split_at_colon (colon_not_mem_object_type objecttype)
  cases objectkey with
  | object_id oid =>
    obtain ⟨hvalid, hoid⟩ := h
    obtain ⟨hfdb, hroute, hneighbor⟩ := typed
    refine ⟨sai_serialize_object_type M objecttype ++ ':' :: sai_serialize_object_id oid, ?_, ?_⟩
    · rw [sai_serialize_object_meta_key, if_pos hvalid]
      simp [hoid]
    · rw [sai_deserialize_object_meta_key, (hread _).1, (hread _).2,
        sai_deserialize_serialize_object_type]
      simp only [Option.bind_some, if_pos hvalid, dif_neg hfdb, dif_neg hroute,
        dif_neg hneighbor, hoid, sai_deserialize_serialize_object_id]
      rfl
  | fdb_entry entry =>
    have htype : objecttype.1 = SAI_OBJECT_TYPE_FDB_ENTRY := typed
    have hvalid : M.Valid objecttype := valid_of_lt (by rw [htype]; decide) (by rw [htype]; decide)
    refine ⟨sai_serialize_object_type M objecttype ++ ':' :: sai_serialize_fdb_entry entry, ?_, ?_⟩
    · rw [sai_serialize_object_meta_key, if_pos hvalid]
      rfl
    · rw [sai_deserialize_object_meta_key, (hread _).1, (hread _).2,
        sai_deserialize_serialize_object_type]
      simp only [Option.bind_some, if_pos hvalid, dif_pos htype,
        sai_deserialize_serialize_fdb_entry, Option.map_some]
  | neighbor_entry entry =>
    have htype : objecttype.1 = SAI_OBJECT_TYPE_NEIGHBOR_ENTRY := typed
    have hvalid : M.Valid objecttype := valid_of_lt (by rw [htype]; decide) (by rw [htype]; decide)
    have hfdb : ¬ objecttype.1 = SAI_OBJECT_TYPE_FDB_ENTRY := by rw [htype]; decide
    have hroute : ¬ objecttype.1 = SAI_OBJECT_TYPE_ROUTE_ENTRY := by rw [htype]; decide
    refine ⟨sai_serialize_object_type M objecttype ++ ':' :: sai_serialize_neighbor_entry entry,
      ?_, ?_⟩
    · rw [sai_serialize_object_meta_key, if_pos hvalid]
      rfl
    · rw [sai_deserialize_object_meta_key, (hread _).1, (hread _).2,
        sai_deserialize_serialize_object_type]
      simp only [Option.bind_some, if_pos hvalid, dif_neg hfdb, dif_neg hroute, dif_pos htype,
        sai_deserialize_serialize_neighbor_entry, Option.map_some]
  | route_entry entry =>
    have htype : objecttype.1 = SAI_OBJECT_TYPE_ROUTE_ENTRY := typed
    have hvalid : M.Valid objecttype := valid_of_lt (by rw [htype]; decide) (by rw [htype]; decide)
    have hfdb : ¬ objecttype.1 = SAI_OBJECT_TYPE_FDB_ENTRY := by rw [htype]; decide
    obtain ⟨dest, hdest⟩ : ∃ dest, sai_serialize_ip_prefix entry.destination = some dest :=
      Option.ne_none_iff_exists'.mp fun hnone => h (sai_serialize_ip_prefix_eq_none.mp hnone)
    obtain ⟨key, hkey⟩ : ∃ key, sai_serialize_route_entry entry = some key :=
      ⟨_, by rw [sai_serialize_route_entry, hdest]; rfl⟩
    refine ⟨sai_serialize_object_type M objecttype ++ ':' :: key, ?_, ?_⟩
    · rw [sai_serialize_object_meta_key, if_pos hvalid]
      simp [hkey]
    · rw [sai_deserialize_object_meta_key, (hread _).1, (hread _).2,
        sai_deserialize_serialize_object_type]
      simp only [Option.bind_some, if_pos hvalid, dif_neg hfdb, dif_pos htype,
        sai_deserialize_serialize_route_entry hkey, Option.map_some]

/-- **Keys are encoded injectively**: a supported key is read back, two supported keys
never share a text, and a prefix is refused exactly if its mask is mixed. -/
theorem meta_key_injective (M : SaiMetadata) :
    (∀ k, Supported M k → ∃ text, sai_serialize_object_meta_key M k = some text ∧
        sai_deserialize_object_meta_key M text = some k) ∧
      (∀ k k', Supported M k → Supported M k' →
        sai_serialize_object_meta_key M k = sai_serialize_object_meta_key M k' → k = k') ∧
      ∀ p, sai_serialize_ip_prefix p = none ↔ p.MaskMixed := by
  refine ⟨fun k hk => exists_sai_serialize_object_meta_key hk, fun k k' hk hk' htext => ?_,
    fun p => sai_serialize_ip_prefix_eq_none⟩
  obtain ⟨text, hwrite, hread⟩ := exists_sai_serialize_object_meta_key hk
  obtain ⟨text', hwrite', hread'⟩ := exists_sai_serialize_object_meta_key hk'
  obtain rfl : text = text' := Option.some.inj (hwrite.symm.trans (htext.trans hwrite'))
  exact Option.some.inj (hread.symm.trans hread')

/-- The tables, cut down to the routes. -/
def routeMetadata : SaiMetadata where
  enum_sai_object_type_t :=
    { values := [(⟨37, by decide⟩, "SAI_OBJECT_TYPE_ROUTE_ENTRY".toList)]
      nodup := List.nodup_singleton _
      identifier := by
        intro p hp
        obtain rfl := List.mem_singleton.mp hp
        exact ⟨List.all_eq_true.mp rfl, 'S', _, rfl, by decide⟩ }
  extensionsMax := 90
  isnonobjectid objecttype := objecttype.1 = SAI_OBJECT_TYPE_ROUTE_ENTRY
  max_le := by decide

theorem routeType_valid : IntType.int32.min ≤ 37 ∧ 37 ≤ IntType.int32.max := by decide

/-- The route to 10.1.0.0/16. -/
def routeKey : sai_object_meta_key_t where
  objecttype := ⟨37, routeType_valid⟩
  objectkey := .route_entry ⟨0x21000000000000, 0x3000000000022,
    .ipv4 (10 ::ᵥ 1 ::ᵥ 0 ::ᵥ 0 ::ᵥ .nil) (255 ::ᵥ 255 ::ᵥ 0 ::ᵥ 0 ::ᵥ .nil)⟩
  typed := rfl

/-- The theorem at a route. -/
theorem meta_key_injective_route :
    ∃ text, sai_serialize_object_meta_key routeMetadata routeKey = some text ∧
      sai_deserialize_object_meta_key routeMetadata text = some routeKey :=
  (meta_key_injective routeMetadata).1 routeKey fun hmixed =>
    absurd ((get_ip_mask_spec _).2.mpr hmixed) (by decide)

end Sai
