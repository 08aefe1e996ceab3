/-
Mibs/LldpRemManAddr.lean

The table of the neighbours' management addresses (`LLDPRemManAddrUpdater`).

The table is filled in two ways: `reinit_data` reads the rows of all interfaces anew, and
`update_data` follows the keyspace events of the rows.  Both add the entry of one row with
`update_rem_if_mgmt`, which never takes an entry away.  `Table.Agrees` says that the table has
of an interface what its row says; the entry of a row is right if the row is `Readable`
(`readEntry_spec`), and adding it is right where no entry of the interface is in the table
(`update_rem_if_mgmt_spec`).
-/
import Sonic.Lib.FieldMap
import Sonic.Lib.PyAddress

namespace Lldp

open PyText Numeral
open Std (ExtTreeMap)

/-! ### Interfaces -/

/-- The patterns of interface names, and the index of the first interface of each. -/
def patterns : List (String × ℤ) := [("Ethernet", 1), ("PortChannel", 1000), ("eth", 10000)]

/-- `re.match("^<kind>(\\d+)$", if_name)`: the number. -/
def matchNumber (kind if_name : String) : Option ℤ :=
  let rest := if_name.toList.drop kind.toList.length
  if kind.toList <+: if_name.toList ∧ rest ≠ [] ∧ rest.all (isDigit 10) then
    some (value 10 rest)
  else none

/-- `port_util.get_index_from_str` -/
def get_index_from_str (if_name : String) : Option ℤ :=
  patterns.findSome? fun p => (matchNumber p.1 if_name).map (· + p.2)

/-- A management port: its name has an index. -/
structure MgmtPort where
  name : String
  index : ℤ
  get_index : get_index_from_str name = some index

/-- The names of the interfaces by their indices. -/
abbrev NameMap := ExtTreeMap ℤ String

/-- `oid_name_map` of `init_sync_d_interface_tables`: names without an index are left out. -/
def init_sync_d_interface_tables (if_names : List String) : NameMap :=
  FieldMap.merge ∅ (if_names.filterMap fun if_name =>
    (get_index_from_str if_name).map fun oid => (oid, if_name))

/-- `oid_name_map.update(mgmt_oid_name_map)` -/
def addMgmtPorts (oid_name_map : NameMap) (mgmt_ports : List MgmtPort) : NameMap :=
  FieldMap.merge oid_name_map (mgmt_ports.map fun port => (port.index, port.name))

/-! ### Rows and entries -/

/-- The fields of a row of `LLDP_ENTRY_TABLE` that the updater reads. -/
structure Row where
  lldp_rem_man_addr : Option String
  lldp_rem_time_mark : Option String
  lldp_rem_index : Option String
deriving DecidableEq

/-- A sub-oid: time mark, interface, index, address type, and the address. -/
abbrev Oid := List ℤ

/-- A value of `mgmt_ips`. -/
structure MgmtIp where
  ip_str : String
  addr_subtype : ℤ
  addr_hex : String
deriving DecidableEq

/-- The errors of reading a row. -/
inductive Raised
  | KeyError
  | ValueError
deriving DecidableEq

def man_addr_subtype_ipv4 : ℤ := 1

def man_addr_subtype_ipv6 : ℤ := 2

/-- `lldp_kvs[field]` -/
def item (value : Option String) : Except Raised String :=
  value.elim (.error .KeyError) .ok

/-- `int(s, b)` -/
def toInt (b : ℕ) (s : String) : Except Raised ℤ := (int b s).elim (.error .ValueError) .ok

/-- `get_subtype` -/
def get_subtype (ip_str : String) : Option ℤ :=
  if (IPv4Address ip_str).isSome then some man_addr_subtype_ipv4
  else if (IPv6Address ip_str).isSome then some man_addr_subtype_ipv6
  else none

/-- `int(i, 16) if i else 0` -/
def groupOrZero (part : String) : Except Raised ℤ := if part = "" then .ok 0 else toInt 16 part

/-- `format(n, 'x')` -/
def hex (n : ℤ) : String := String.ofList (Nat.toDigits 16 n.toNat)

/-- `format(n, '02X')` -/
def hex02 (n : ℤ) : String :=
  let digits := (Nat.toDigits 16 n.toNat).map Char.toUpper
  String.ofList (List.replicate (2 - digits.length) '0' ++ digits)

/-- `get_ip_hex`, of an address. -/
def get_ip_hex (mgmt_ip_str : String) (subtype : ℤ) : Except Raised String :=
  if subtype = man_addr_subtype_ipv4 then
    ((split '.' mgmt_ip_str).mapM (toInt 10)).map fun parts => join ' ' (parts.map hex02)
  else
    ((split ':' mgmt_ip_str).mapM groupOrZero).map fun parts => join ' ' (parts.map hex)

/-- `mgmt_ip_sub_oid` -/
def mgmt_ip_sub_oid (mgmt_ip_str : String) (subtype : ℤ) : Except Raised Oid :=
  if subtype = man_addr_subtype_ipv4 then
    ((split '.' mgmt_ip_str).mapM (toInt 10)).map fun parts => 4 :: parts
  else
    ((split ':' mgmt_ip_str).mapM groupOrZero).map fun parts => 6 :: parts

/-- The part of `update_rem_if_mgmt` under `try`: the entry of a row, or none. -/
def readEntry (if_oid : ℤ) (lldp_kvs : Row) : Except Raised (Option (Oid × MgmtIp)) := do
  let mgmt_ip_str := strip (← item lldp_kvs.lldp_rem_man_addr)
  if mgmt_ip_str = "" then
    return none
  else
    let time_mark ← toInt 10 (← item lldp_kvs.lldp_rem_time_mark)
    let remote_index ← toInt 10 (← item lldp_kvs.lldp_rem_index)
    match get_subtype mgmt_ip_str with
    | none => return none
    | some subtype =>
      let ip_hex ← get_ip_hex mgmt_ip_str subtype
      let sub_oid ← mgmt_ip_sub_oid mgmt_ip_str subtype
      return some ([time_mark, if_oid, remote_index, subtype] ++ sub_oid,
        ⟨mgmt_ip_str, subtype, ip_hex⟩)

/-- What the updater serves. -/
structure Table where
  if_range : List Oid
  mgmt_ips : ExtTreeMap String MgmtIp

namespace Table

/-- The table before the first row. -/
def empty : Table := ⟨[], ∅⟩

/-- `update_rem_if_mgmt`, of the row that is read; a `ValueError` is not caught. -/
def update_rem_if_mgmt (t : Table) (lldp_kvs : Option Row) (if_oid : ℤ) (if_name : String) :
    Except Raised Table :=
  match lldp_kvs with
  | none => .ok t
  | some kvs =>
    match readEntry if_oid kvs with
    | .error .KeyError => .ok t
    | .error .ValueError => .error .ValueError
    | .ok none => .ok t
    | .ok (some (sub_oid, ip)) =>
      .ok ⟨(t.if_range ++ [sub_oid]).insertionSort (· ≤ ·), t.mgmt_ips.insert if_name ip⟩

/-- The list comprehension of `update_data` after a `del`: it compares the time mark. -/
def dropEntries (t : Table) (if_index : ℤ) : Table :=
  { t with if_range := t.if_range.filter fun sub_oid => sub_oid[0]? ≠ some if_index }

/-- The entries of an interface. -/
def entries (t : Table) (if_oid : ℤ) : List Oid :=
  t.if_range.filter fun sub_oid => sub_oid[1]? = some if_oid

end Table

example : readEntry 5 ⟨some " 10.224.25.100 ", some "18543", some "1"⟩ =
    .ok (some ([18543, 5, 1, 1, 4, 10, 224, 25, 100], ⟨"10.224.25.100", 1, "0A E0 19 64"⟩)) := by
  decide

/-! ### What the table is for -/

/-- The address type and the octets of an address. -/
def octets (ip_str : String) : Option (ℤ × List ℤ) :=
  match IPv4Address ip_str with
  | some bytes => some (man_addr_subtype_ipv4, bytes)
  | none =>
    (IPv6Address ip_str).map fun groups =>
      (man_addr_subtype_ipv6, groups.flatMap fun g => [g / 256, g % 256])

/-- The octets that the numbers of an address in a sub-oid stand for. -/
def decodeOctets (subtype : ℤ) (parts : List ℤ) : List ℤ :=
  if subtype = man_addr_subtype_ipv4 then parts else parts.flatMap fun g => [g / 256, g % 256]

/-- The text, the type and the octets of the management address of a row. -/
def address (lldp_kvs : Option Row) : Option (String × ℤ × List ℤ) :=
  lldp_kvs.bind fun kvs => kvs.lldp_rem_man_addr.bind fun text =>
    (octets (strip text)).map fun a => (strip text, a.1, a.2)

/-- The entry is the one of the row of the interface. -/
structure IsEntry (if_oid : ℤ) (kvs : Row) (subtype : ℤ) (bytes : List ℤ) (e : Oid) : Prop where
  exists_eq : ∃ time_mark remote_index version parts,
    kvs.lldp_rem_time_mark.bind (int 10) = some time_mark ∧
    kvs.lldp_rem_index.bind (int 10) = some remote_index ∧
    e = time_mark :: if_oid :: remote_index :: subtype :: version :: parts ∧
    decodeOctets subtype parts = bytes

/-- The table has of an interface what its row says. -/
structure Table.Agrees (t : Table) (lldp_kvs : Option Row) (if_oid : ℤ) (if_name : String) :
    Prop where
  entry : ∀ kvs text subtype bytes, lldp_kvs = some kvs →
    address lldp_kvs = some (text, subtype, bytes) →
      ∃ e, t.entries if_oid = [e] ∧ IsEntry if_oid kvs subtype bytes e
  ip : ∀ text subtype bytes, address lldp_kvs = some (text, subtype, bytes) →
    ∃ addr_hex, get_ip_hex text subtype = .ok addr_hex ∧
      t.mgmt_ips[if_name]? = some ⟨text, subtype, addr_hex⟩
  no_entry : address lldp_kvs = none → t.entries if_oid = []
  no_ip : address lldp_kvs = none → t.mgmt_ips[if_name]? = none

/-- A field that is absent or a number. -/
def NumberIfGiven (value : Option String) : Prop := ∀ s, value = some s → (int 10 s).isSome

/-- The rows that are read rightly: the time mark and the index are numbers, both are given
with an address, and an IPv6 address is written in eight parts without a dotted tail. -/
structure Readable (kvs : Row) : Prop where
  time_mark : NumberIfGiven kvs.lldp_rem_time_mark
  index : NumberIfGiven kvs.lldp_rem_index
  given : address (some kvs) ≠ none →
    kvs.lldp_rem_time_mark ≠ none ∧ kvs.lldp_rem_index ≠ none
  eight : ∀ text, kvs.lldp_rem_man_addr = some text → IPv4Address (strip text) = none →
    IPv6Address (strip text) ≠ none → (split ':' (strip text)).length = 8 ∧
      ∀ last ∈ (split ':' (strip text)).getLast?, '.' ∉ last.toList

/-! ### Reading a row -/

variable {kvs : Row} {lldp_kvs : Option Row} {if_oid : ℤ} {if_name text : String}
  {parts : List String} {bytes ns : List ℤ} {subtype : ℤ} {t t' : Table}

theorem mapM_toInt {f : String → Option ℤ} {g : String → Except Raised ℤ}
    (hfg : ∀ part n, f part = some n → g part = .ok n) (h : parts.mapM f = some ns) :
    parts.mapM g = .ok ns := by
  induction parts generalizing ns with
  | nil =>
    obtain rfl := Option.some.inj h
    rfl
  | cons part parts ih =>
    simp only [List.mapM_cons, Option.bind_eq_bind, Option.bind_eq_some_iff] at h
    obtain ⟨n, hn, ms, hms, heq⟩ := h
    obtain rfl := Option.some.inj heq
    rw [List.mapM_cons, hfg part n hn, ih hms]
    rfl

theorem toInt_of_int {b : ℕ} {s : String} {n : ℤ} (h : int b s = some n) : toInt b s = .ok n := by
  rw [toInt, h]
  rfl

theorem toInt_of_octet {part : String} {n : ℤ} (h : parse_octet part = some n) :
    toInt 10 part = .ok n := by
  unfold parse_octet at h
  split_ifs at h
  split at h
  · cases h
  · rename_i octet_int hint
    split_ifs at h
    obtain rfl := Option.some.inj h
    exact toInt_of_int hint

theorem groupOrZero_of_groupPart {part : String} {n : ℤ} (h : groupPart part = some n) :
    groupOrZero part = .ok n := by
  unfold groupPart at h
  unfold groupOrZero
  split_ifs at h ⊢ with hempty
  · exact congrArg Except.ok (Option.some.inj h)
  · exact toInt_of_int h

theorem octets_of_IPv4 (h : IPv4Address text = some bytes) :
    (split '.' text).mapM (toInt 10) = .ok bytes := by
  unfold IPv4Address at h
  simp only at h
  split_ifs at h
  exact mapM_toInt (fun _ _ => toInt_of_octet) h

/-- An IPv6 address of eight parts is split into its groups. -/
theorem groups_of_IPv6 (h : IPv6Address text = some ns) (hlen : (split ':' text).length = 8)
    (hdot : ∀ last ∈ (split ':' text).getLast?, '.' ∉ last.toList) :
    (split ':' text).mapM groupOrZero = .ok ns :=
  mapM_toInt (fun _ _ => groupOrZero_of_groupPart) ((groupParts_eq_iff h).mpr ⟨hlen, hdot⟩)

theorem toInt_of_given {value : Option String} (h : NumberIfGiven value) (hne : value ≠ none) :
    ∃ s n, item value = .ok s ∧ toInt 10 s = .ok n ∧ value.bind (int 10) = some n := by
  cases value with
  | none => exact absurd rfl hne
  | some s =>
    obtain ⟨n, hn⟩ := Option.isSome_iff_exists.mp (h s rfl)
    exact ⟨s, n, rfl, toInt_of_int hn, hn⟩

/-- What is added to a sub-oid for an address of the given type. -/
theorem sub_oid_spec (h : octets text = some (subtype, bytes))
    (height : IPv4Address text = none → IPv6Address text ≠ none →
      (split ':' text).length = 8 ∧ ∀ last ∈ (split ':' text).getLast?, '.' ∉ last.toList) :
    get_subtype text = some subtype ∧ ∃ version parts addr_hex,
      get_ip_hex text subtype = .ok addr_hex ∧
      mgmt_ip_sub_oid text subtype = .ok (version :: parts) ∧
      decodeOctets subtype parts = bytes := by
  unfold octets at h
  cases h4 : IPv4Address text with
  | some ns =>
    rw [h4] at h
    obtain ⟨rfl, rfl⟩ := Prod.mk.inj (Option.some.inj h)
    refine ⟨?_, 4, ns, join ' ' (ns.map hex02), ?_, ?_, if_pos rfl⟩
    · rw [get_subtype, h4]
      rfl
    · rw [get_ip_hex, if_pos rfl, octets_of_IPv4 h4]
      rfl
    · rw [mgmt_ip_sub_oid, if_pos rfl, octets_of_IPv4 h4]
      rfl
  | none =>
    rw [h4] at h
    obtain ⟨groups, hgroups, heq⟩ := Option.map_eq_some_iff.mp h
    obtain ⟨rfl, rfl⟩ := Prod.mk.inj heq
    obtain ⟨hlen, hdot⟩ := height h4 (by rw [hgroups]; exact Option.some_ne_none _)
    have hread := groups_of_IPv6 hgroups hlen hdot
    refine ⟨?_, 6, groups, join ' ' (groups.map hex), ?_, ?_, if_neg (by decide)⟩
    · rw [get_subtype, h4, hgroups]
      rfl
    · rw [get_ip_hex, if_neg (by decide), hread]
      rfl
    · rw [mgmt_ip_sub_oid, if_neg (by decide), hread]
      rfl

theorem IsEntry.interface {e : Oid} (h : IsEntry if_oid kvs subtype bytes e) :
    e[1]? = some if_oid := by
  obtain ⟨time_mark, remote_index, version, parts, -, -, rfl, -⟩ := h.exists_eq
  rfl

theorem bind_ok {α β : Type} {a : α} {f : α → Except Raised β} : (Except.ok a >>= f) = f a := rfl

theorem address_some : address (some kvs) = kvs.lldp_rem_man_addr.bind fun text =>
    (octets (strip text)).map fun a => (strip text, a.1, a.2) := rfl

/-- **A readable row with an address has its entry.** -/
theorem readEntry_spec (h : Readable kvs)
    (ha : address (some kvs) = some (text, subtype, bytes)) :
    ∃ e addr_hex, readEntry if_oid kvs = .ok (some (e, ⟨text, subtype, addr_hex⟩)) ∧
      IsEntry if_oid kvs subtype bytes e ∧ get_ip_hex text subtype = .ok addr_hex := by
  obtain ⟨htm, hix⟩ := h.given (ne_of_eq_of_ne ha (Option.some_ne_none _))
  obtain ⟨tm, time_mark, htm1, htm2, htm3⟩ := toInt_of_given h.time_mark htm
  obtain ⟨ix, remote_index, hix1, hix2, hix3⟩ := toInt_of_given h.index hix
  rw [address_some] at ha
  obtain ⟨raw, hraw, hmap⟩ := Option.bind_eq_some_iff.mp ha
  obtain ⟨⟨subtype', bytes'⟩, hoct, heq⟩ := Option.map_eq_some_iff.mp hmap
  obtain ⟨rfl, rfl, rfl⟩ : strip raw = text ∧ subtype' = subtype ∧ bytes' = bytes := by
    simpa using heq
  obtain ⟨hsub, version, parts, addr_hex, hhex, hoid, hdec⟩ :=
    sub_oid_spec hoct (h.eight raw hraw)
  have hne : strip raw ≠ "" := by
    intro hempty
    rw [hempty, show get_subtype "" = none by decide] at hsub
    cases hsub
  refine ⟨time_mark :: if_oid :: remote_index :: subtype' :: version :: parts, addr_hex, ?_,
    ⟨time_mark, remote_index, version, parts, htm3, hix3, rfl, hdec⟩, hhex⟩
  unfold readEntry
  rw [hraw, show item (some raw) = .ok raw from rfl, bind_ok, if_neg hne, htm1, bind_ok, htm2,
    bind_ok, hix1, bind_ok, hix2, bind_ok, hsub]
  simp only [hhex, hoid, bind_ok]
  rfl

theorem get_subtype_of_octets (h : octets text = none) : get_subtype text = none := by
  unfold octets at h
  cases h4 : IPv4Address text with
  | some ns =>
    rw [h4] at h
    cases h
  | none =>
    rw [h4] at h
    rw [get_subtype, h4, Option.map_eq_none_iff.mp h]
    rfl

/-- A field that is a number if it is given is read, or raises the error that is caught. -/
theorem item_toInt {value : Option String} (h : NumberIfGiven value) :
    item value = .error .KeyError ∨ ∃ s n, item value = .ok s ∧ toInt 10 s = .ok n := by
  cases value with
  | none => exact Or.inl rfl
  | some s =>
    obtain ⟨s, n, hs, hn, -⟩ := toInt_of_given h (Option.some_ne_none s)
    exact Or.inr ⟨s, n, hs, hn⟩

/-- A readable row without an address has no entry, and no error leaves. -/
theorem readEntry_none (h : Readable kvs) (ha : address (some kvs) = none) :
    readEntry if_oid kvs = .ok none ∨ readEntry if_oid kvs = .error .KeyError := by
  unfold readEntry
  cases hraw : kvs.lldp_rem_man_addr with
  | none => exact Or.inr rfl
  | some raw =>
    rw [show item (some raw) = .ok raw from rfl, bind_ok]
    by_cases hempty : strip raw = ""
    · exact Or.inl (if_pos hempty)
    · rw [if_neg hempty]
      rcases item_toInt h.time_mark with hkey | ⟨tm, time_mark, htm1, htm2⟩
      · exact Or.inr (by rw [hkey]; rfl)
      rcases item_toInt h.index with hkey | ⟨ix, remote_index, hix1, hix2⟩
      · exact Or.inr (by rw [htm1, bind_ok, htm2, bind_ok, hkey]; rfl)
      have hoct : octets (strip raw) = none := by
        rw [address_some, hraw, Option.bind_some, Option.map_eq_none_iff] at ha
        exact ha
      left
      rw [htm1, bind_ok, htm2, bind_ok, hix1, bind_ok, hix2, bind_ok,
        get_subtype_of_octets hoct]
      rfl

/-! ### Adding the entry of a row -/

theorem Table.mem_entries {e : Oid} :
    e ∈ t.entries if_oid ↔ e ∈ t.if_range ∧ e[1]? = some if_oid := by
  rw [Table.entries, List.mem_filter, decide_eq_true_iff]

/-- The table with one more entry. -/
def Table.add (t : Table) (e : Oid) (if_name : String) (ip : MgmtIp) : Table :=
  ⟨(t.if_range ++ [e]).insertionSort (· ≤ ·), t.mgmt_ips.insert if_name ip⟩

theorem Table.mem_add {e e' : Oid} {ip : MgmtIp} :
    e' ∈ (t.add e if_name ip).if_range ↔ e' ∈ t.if_range ∨ e' = e := by
  rw [Table.add, List.mem_insertionSort, List.mem_append, List.mem_singleton]

/-- The order is strict as long as no interface has two entries. -/
theorem Table.sorted_add {e : Oid} {ip : MgmtIp} (hs : t.if_range.Pairwise (· < ·))
    (hno : t.entries if_oid = []) (he : e[1]? = some if_oid) :
    (t.add e if_name ip).if_range.Pairwise (· < ·) := by
  have hnotin : e ∉ t.if_range := fun hmem =>
    List.not_mem_nil (hno ▸ Table.mem_entries.mpr ⟨hmem, he⟩)
  have hnodup : (t.if_range ++ [e]).Nodup :=
    List.nodup_append.mpr ⟨hs.imp fun h => h.ne, List.nodup_singleton e, by
      intro a ha b hb
      rw [List.mem_singleton.mp hb]
      rintro rfl
      exact hnotin ha⟩
  have hle := List.pairwise_insertionSort (· ≤ ·) (t.if_range ++ [e])
  have hne : ((t.if_range ++ [e]).insertionSort (· ≤ ·)).Nodup :=
    (List.perm_insertionSort _ _).nodup_iff.mpr hnodup
  exact (hle.and hne).imp fun h => lt_of_le_of_ne h.1 h.2

/-- The entries of an interface after an entry is added. -/
theorem Table.entries_add {e : Oid} {ip : MgmtIp} :
    ((t.add e if_name ip).entries if_oid).Perm
      (t.entries if_oid ++ if e[1]? = some if_oid then [e] else []) := by
  have hperm := (List.perm_insertionSort (· ≤ ·) (t.if_range ++ [e])).filter
    fun sub_oid => decide (sub_oid[1]? = some if_oid)
  rw [List.filter_append] at hperm
  refine hperm.trans (List.Perm.of_eq ?_)
  rw [Table.entries, List.filter_singleton]
  congr 1
  by_cases h : e[1]? = some if_oid
  · rw [if_pos h, decide_eq_true h]
    rfl
  · rw [if_neg h, decide_eq_false h]
    rfl

theorem Table.entries_add_ne {e : Oid} {ip : MgmtIp} {i : ℤ} (he : e[1]? = some if_oid)
    (hi : i ≠ if_oid) : ((t.add e if_name ip).entries i).Perm (t.entries i) := by
  have h := @Table.entries_add i if_name t e ip
  have hne : e[1]? ≠ some i := by
    rw [he]
    exact fun heq => hi (Option.some.inj heq).symm
  rwa [if_neg hne, List.append_nil] at h

/-- What the table has of an interface does not depend on the others. -/
theorem Table.Agrees.congr (h : t.Agrees lldp_kvs if_oid if_name)
    (hentries : (t'.entries if_oid).Perm (t.entries if_oid))
    (hip : t'.mgmt_ips[if_name]? = t.mgmt_ips[if_name]?) :
    t'.Agrees lldp_kvs if_oid if_name where
  entry kvs text subtype bytes hkvs ha := by
    obtain ⟨e, he, hentry⟩ := h.entry kvs text subtype bytes hkvs ha
    rw [he] at hentries
    exact ⟨e, List.perm_singleton.mp hentries, hentry⟩
  ip text subtype bytes ha := by
    rw [hip]
    exact h.ip text subtype bytes ha
  no_entry ha := by
    rw [h.no_entry ha] at hentries
    exact hentries.eq_nil
  no_ip ha := hip.trans (h.no_ip ha)

/-- **What `update_rem_if_mgmt` does** to a table without an entry of the interface. -/
theorem Table.update_rem_if_mgmt_spec (hread : ∀ kvs, lldp_kvs = some kvs → Readable kvs)
    (hno : t.entries if_oid = [])
    (hip : address lldp_kvs = none → t.mgmt_ips[if_name]? = none) :
    ∃ t', t.update_rem_if_mgmt lldp_kvs if_oid if_name = .ok t' ∧
      t'.Agrees lldp_kvs if_oid if_name ∧
      (t' = t ∧ address lldp_kvs = none ∨
        ∃ e ip, t' = t.add e if_name ip ∧ e[1]? = some if_oid ∧ address lldp_kvs ≠ none) := by
  cases ha : address lldp_kvs with
  | none =>
    refine ⟨t, ?_, ⟨?_, ?_, fun _ => hno, hip⟩, Or.inl ⟨rfl, rfl⟩⟩
    · cases lldp_kvs with
      | none => rfl
      | some kvs =>
        rw [Table.update_rem_if_mgmt]
        rcases @readEntry_none kvs if_oid (hread kvs rfl) ha with h | h
        · rw [h]
        · rw [h]
    · intro kvs text subtype bytes _ h
      cases ha.symm.trans h
    · intro text subtype bytes h
      cases ha.symm.trans h
  | some a =>
    obtain ⟨text, subtype, bytes⟩ := a
    cases lldp_kvs with
    | none => cases ha
    | some kvs =>
      obtain ⟨e, addr_hex, hentry, hise, hhex⟩ :=
        @readEntry_spec kvs if_oid text bytes subtype (hread kvs rfl) ha
      refine ⟨t.add e if_name ⟨text, subtype, addr_hex⟩, ?_, ⟨?_, ?_, ?_, ?_⟩,
        Or.inr ⟨e, _, rfl, hise.interface, Option.some_ne_none _⟩⟩
      · rw [Table.update_rem_if_mgmt, hentry]
        rfl
      · intro kvs' text' subtype' bytes' hkvs ha'
        obtain rfl := Option.some.inj hkvs
        obtain ⟨rfl, rfl, rfl⟩ : text = text' ∧ subtype = subtype' ∧ bytes = bytes' := by
          simpa using ha.symm.trans ha'
        have hperm := @Table.entries_add if_oid if_name t e ⟨text, subtype, addr_hex⟩
        rw [hno, if_pos hise.interface, List.nil_append] at hperm
        exact ⟨e, List.perm_singleton.mp hperm, hise⟩
      · intro text' subtype' bytes' ha'
        obtain ⟨rfl, rfl, rfl⟩ : text = text' ∧ subtype = subtype' ∧ bytes = bytes' := by
          simpa using ha.symm.trans ha'
        exact ⟨addr_hex, hhex, ExtTreeMap.getElem?_insert_self⟩
      · intro hnone
        cases ha.symm.trans hnone
      · intro hnone
        cases ha.symm.trans hnone

end Lldp
