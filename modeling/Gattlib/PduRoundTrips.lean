import Gattlib.AttPdus

namespace Gattlib.PduRoundTrips

open Uuids AttPdus Library.Records

/-- The PDUs that `att.c` has both an encoder and a decoder for, without those of lists. A signed write
gets its signature as it is encoded. -/
inductive Message
  | readByGrpReq (start end_ : BitVec 16) (uuid : BtUuid)
  | readByTypeReq (start end_ : BitVec 16) (uuid : BtUuid)
  | findInfoReq (start end_ : BitVec 16)
  | findByTypeReq (start end_ : BitVec 16) (uuid : BtUuid) (value : List UInt8)
  | readReq (handle : BitVec 16)
  | readResp (value : List UInt8)
  | readBlobReq (handle offset : BitVec 16)
  | mtuReq (mtu : BitVec 16)
  | mtuResp (mtu : BitVec 16)
  | writeReq (handle : BitVec 16) (value : List UInt8)
  | writeResp
  | writeCmd (handle : BitVec 16) (value : List UInt8)
  | signedWriteCmd (handle : BitVec 16) (value : List UInt8) (signature : Option Signature)
  | prepWriteReq (handle offset : BitVec 16) (value : List UInt8)
  | prepWriteResp (handle offset : BitVec 16) (value : List UInt8)
  | execWriteReq (flags : UInt8)
  | execWriteResp
  | indication (handle : BitVec 16) (value : List UInt8)

/-- The buffer has the size of the MTU. -/
def encode (sign : List UInt8 → Option Signature) (mtu : BitVec 16) : Message → Option Pdu
  | .readByGrpReq start end_ uuid => encReadByGrpReq start end_ uuid
  | .readByTypeReq start end_ uuid => encReadByTypeReq start end_ uuid
  | .findInfoReq start end_ => some (encFindInfoReq start end_)
  | .findByTypeReq start end_ uuid value => encFindByTypeReq start end_ uuid value mtu.toNat
  | .readReq handle => some (encReadReq handle)
  | .readResp value => some (encReadResp value mtu.toNat)
  | .readBlobReq handle offset => some (encReadBlobReq handle offset)
  | .mtuReq rx => some (encMtuReq rx)
  | .mtuResp rx => some (encMtuResp rx)
  | .writeReq handle value => some (encWriteReq handle value mtu.toNat)
  | .writeResp => some encWriteResp
  | .writeCmd handle value => some (encWriteCmd handle value mtu.toNat)
  | .signedWriteCmd handle value _ => encSignedWriteCmd sign handle value mtu.toNat
  | .prepWriteReq handle offset value => some (encPrepWriteReq handle offset value mtu.toNat)
  | .prepWriteResp handle offset value => some (encPrepWriteResp handle offset value mtu.toNat)
  | .execWriteReq flags => encExecWriteReq flags
  | .execWriteResp => some encExecWriteResp
  | .indication handle value => encIndication handle value mtu.toNat

/-- The decoder for the same kind. Where it is told the size of the buffer for a value, that is the one
of the PDU. -/
def decodeLike (p : Pdu) : Message → Option Message
  | .readByGrpReq .. => (decReadByGrpReq p).map fun r => .readByGrpReq r.1 r.2.1 r.2.2
  | .readByTypeReq .. => (decReadByTypeReq p).map fun r => .readByTypeReq r.1 r.2.1 r.2.2
  | .findInfoReq .. => (decFindInfoReq p).map fun r => .findInfoReq r.1 r.2
  | .findByTypeReq .. =>
    (decFindByTypeReq p).map fun r => .findByTypeReq r.1 r.2.1 r.2.2.1 r.2.2.2
  | .readReq _ => (decReadReq p).map .readReq
  | .readResp _ => (decReadResp p.length p).toOption.map .readResp
  | .readBlobReq .. => (decReadBlobReq p).map fun r => .readBlobReq r.1 r.2
  | .mtuReq _ => (decMtuReq p).map .mtuReq
  | .mtuResp _ => (decMtuResp p).map .mtuResp
  | .writeReq .. => (decWriteReq p).map fun r => .writeReq r.1 r.2
  | .writeResp => if decWriteResp p then some .writeResp else none
  | .writeCmd .. => (decWriteCmd p).map fun r => .writeCmd r.1 r.2
  | .signedWriteCmd .. => (decSignedWriteCmd p).map fun r => .signedWriteCmd r.1 r.2.1 (some r.2.2)
  | .prepWriteReq .. => (decPrepWriteReq p).map fun r => .prepWriteReq r.1 r.2.1 r.2.2
  | .prepWriteResp .. => (decPrepWriteResp p).map fun r => .prepWriteResp r.1 r.2.1 r.2.2
  | .execWriteReq _ => (decExecWriteReq p).map .execWriteReq
  | .execWriteResp => if decExecWriteResp p then some .execWriteResp else none
  | .indication .. => (decIndication p.length p).map fun r => .indication r.1 r.2

/-- What a PDU of the message carries: of a value, the part that the MTU leaves place for. -/
def carried (sign : List UInt8 → Option Signature) (mtu : BitVec 16) : Message → Message
  | .findByTypeReq start end_ uuid value => .findByTypeReq start end_ uuid (value.take (mtu.toNat - 7))
  | .readResp value => .readResp (value.take (mtu.toNat - 1))
  | .writeReq handle value => .writeReq handle (value.take (mtu.toNat - 3))
  | .writeCmd handle value => .writeCmd handle (value.take (mtu.toNat - 3))
  | .signedWriteCmd handle value _ =>
    let value := value.take (mtu.toNat - 15)
    .signedWriteCmd handle value (sign (attOpSignedWriteCmd :: putLe16 handle ++ value))
  | .prepWriteReq handle offset value => .prepWriteReq handle offset (value.take (mtu.toNat - 5))
  | m => m

def IsPrepWriteResp : Message → Prop
  | .prepWriteResp .. => True
  | _ => False

section

variable {start end_ handle offset : BitVec 16} {uuid : BtUuid} {value : List UInt8} {room : ℕ}
  {opcode : UInt8} {p : Pdu} {m : Message}

theorem range_round_trip (h : encRange opcode start end_ uuid = some p) :
    decRange opcode p = some (start, end_, uuid) := by
  rw [encRange, Option.map_eq_some_iff] at h
  obtain ⟨data, hd, rfl⟩ := h
  have hlen := putUuidLe_length hd
  rw [decRange, if_neg (by simp), if_neg (by simp [Pdu.length]; omega)]
  simp [List.append_assoc, getUuidLe_putUuidLe hd]

theorem word_round_trip (opcode : UInt8) (handle : BitVec 16) :
    decWord opcode (encWord opcode handle) = some handle := by
  simp [decWord, encWord, Pdu.length]

theorem write_round_trip (opcode : UInt8) (handle : BitVec 16) (value : List UInt8) (room : ℕ) :
    decWrite opcode (encWrite opcode handle value room) = some (handle, clipped room 3 value) := by
  have hlen : ¬(encWrite opcode handle value room).length < 3 := by
    simp [encWrite, Pdu.length]
  rw [decWrite, if_neg hlen]
  simp [encWrite]

theorem prep_round_trip (opcode : UInt8) (handle offset : BitVec 16) (value : List UInt8) (room : ℕ) :
    decPrepWrite opcode (encPrepWrite opcode handle offset value room) =
      some (handle, offset, clipped room 5 value) := by
  have hlen : ¬(encPrepWrite opcode handle offset value room).length < 5 := by
    simp [encPrepWrite, Pdu.length]
    omega
  rw [decPrepWrite, if_neg hlen]
  simp [encPrepWrite, List.append_assoc]

theorem findByType_round_trip (h : encFindByTypeReq start end_ uuid value room = some p) :
    decFindByTypeReq p = some (start, end_, uuid, clipped room 7 value) := by
  cases uuid with
  | unspec | u32 _ | u128 _ => simp [encFindByTypeReq] at h
  | u16 u =>
    obtain rfl := Option.some.inj h
    rw [decFindByTypeReq, if_neg (by simp [Pdu.length]; omega), if_neg (by simp)]
    simp [List.append_assoc]

theorem execWrite_round_trip {flags : UInt8} (h : encExecWriteReq flags = some p) :
    decExecWriteReq p = some flags := by
  rw [encExecWriteReq] at h
  split at h
  · cases h
  · obtain rfl := Option.some.inj h
    simp [decExecWriteReq, Pdu.length]

theorem indication_round_trip (h : encIndication handle value room = some p) :
    decIndication p.length p = some (handle, value) := by
  rw [encIndication] at h
  split at h
  · cases h
  · obtain rfl := Option.some.inj h
    rw [decIndication, if_neg (by simp), if_neg (by simp [Pdu.length])]
    simp only [getLe16_putLe16, drop_putLe16, List.drop_zero]
    rw [List.take_of_length_le (by simp [Pdu.length]; omega)]

theorem readResp_round_trip (value : List UInt8) (room : ℕ) :
    decReadResp (encReadResp value room).length (encReadResp value room) = .ok (clipped room 1 value) := by
  have hroom : ¬(encReadResp value room).length < (encReadResp value room).payload.length := by
    rw [Pdu.length]
    omega
  rw [decReadResp, if_neg (by simp [encReadResp]), if_neg hroom]
  rfl

theorem decSignedWrite_parts (handle : BitVec 16) (value : List UInt8) (signature : Signature) :
    decSignedWriteCmd ⟨attOpSignedWriteCmd, putLe16 handle ++ value ++ signature.1⟩ =
      some (handle, value, signature) := by
  obtain ⟨bytes, hbytes⟩ := signature
  have hsize : Pdu.length ⟨attOpSignedWriteCmd, putLe16 handle ++ value ++ bytes⟩ = value.length + 15 := by
    have hlen : bytes.length = 12 := hbytes
    simp only [Pdu.length, List.length_append, putLe16_length, hlen]
    omega
  have hvlen : Pdu.length ⟨attOpSignedWriteCmd, putLe16 handle ++ value ++ bytes⟩ - (3 + attSignatureLen) =
      value.length := by
    rw [hsize]
    exact Nat.add_sub_cancel _ _
  have hvalue : ((putLe16 handle ++ value ++ bytes).drop 2).take value.length = value := by
    rw [List.append_assoc, drop_putLe16, List.drop_zero, List.take_left]
  have hsignature : ((putLe16 handle ++ value ++ bytes).drop (2 + value.length)).take attSignatureLen = bytes := by
    rw [List.append_assoc, Nat.add_comm, drop_putLe16, List.drop_left, List.take_of_length_le (Nat.le_of_eq hbytes)]
  have hhandle : getLe16 (putLe16 handle ++ value ++ bytes) = handle := by
    rw [List.append_assoc, getLe16_putLe16]
  have hlong : ¬Pdu.length ⟨attOpSignedWriteCmd, putLe16 handle ++ value ++ bytes⟩ < 3 + attSignatureLen := by
    rw [hsize, attSignatureLen]
    omega
  rw [decSignedWriteCmd, dif_neg hlong, if_neg (by simp)]
  simp only [hvlen, hvalue, hsignature, hhandle]

theorem signedWrite_round_trip {sign : List UInt8 → Option Signature}
    (h : encSignedWriteCmd sign handle value room = some p) : ∃ signature,
      sign (attOpSignedWriteCmd :: putLe16 handle ++ clipped room 15 value) = some signature ∧
        decSignedWriteCmd p = some (handle, clipped room 15 value, signature) := by
  rw [encSignedWriteCmd] at h
  obtain ⟨signature, hsign, rfl⟩ := Option.map_eq_some_iff.mp h
  exact ⟨signature, hsign, decSignedWrite_parts handle _ signature⟩

theorem clipped_take {least : ℕ} (h : least ≤ room) : clipped room least value = value.take (room - least) :=
  if_pos h

/-- Decoding gives back what was encoded, as far as it fits, for every kind of message but one: a
Prepare Write Response is taken for no such PDU, whatever it carries. -/
theorem message_round_trip (sign : List UInt8 → Option Signature) (m : Message) (mtu : BitVec 16)
    (hmtu : 23 ≤ mtu.toNat) (p : Pdu) (h : encode sign mtu m = some p) :
    (IsPrepWriteResp m → decodeLike p m = none) ∧
      (¬IsPrepWriteResp m → decodeLike p m = some (carried sign mtu m)) := by
  have hclip : ∀ (least : ℕ) (value : List UInt8), least ≤ 23 →
      clipped mtu.toNat least value = value.take (mtu.toNat - least) :=
    fun _ _ hleast => clipped_take (hleast.trans hmtu)
  cases m with
  | readByGrpReq start end_ uuid | readByTypeReq start end_ uuid =>
    refine ⟨fun hm => hm.elim, fun _ => ?_⟩
    simp [decodeLike, decReadByGrpReq, decReadByTypeReq, range_round_trip h, carried]
  | findInfoReq start end_ =>
    obtain rfl := Option.some.inj h
    simp [decodeLike, decFindInfoReq, encFindInfoReq, Pdu.length, carried, IsPrepWriteResp]
  | findByTypeReq start end_ uuid value =>
    simp [decodeLike, findByType_round_trip h, carried, IsPrepWriteResp, hclip]
  | readReq handle | mtuReq rx | mtuResp rx =>
    obtain rfl := Option.some.inj h
    simp [decodeLike, decReadReq, encReadReq, decMtuReq, encMtuReq, decMtuResp, encMtuResp,
      word_round_trip, carried, IsPrepWriteResp]
  | readResp value =>
    obtain rfl := Option.some.inj h
    simp [decodeLike, readResp_round_trip, Except.toOption, carried, IsPrepWriteResp, hclip]
  | readBlobReq handle offset =>
    obtain rfl := Option.some.inj h
    simp [decodeLike, decReadBlobReq, encReadBlobReq, Pdu.length, carried, IsPrepWriteResp]
  | writeReq handle value | writeCmd handle value =>
    obtain rfl := Option.some.inj h
    simp [decodeLike, decWriteReq, encWriteReq, decWriteCmd, encWriteCmd, write_round_trip, carried,
      IsPrepWriteResp, hclip]
  | writeResp | execWriteResp =>
    obtain rfl := Option.some.inj h
    simp [decodeLike, decWriteResp, encWriteResp, decExecWriteResp, encExecWriteResp, carried, IsPrepWriteResp]
  | signedWriteCmd handle value none_ =>
    obtain ⟨signature, hsign, hdec⟩ := signedWrite_round_trip h
    rw [hclip 15 value (by decide)] at hsign hdec
    refine ⟨fun hm => hm.elim, fun _ => ?_⟩
    rw [decodeLike, hdec, carried, hsign]
    rfl
  | prepWriteReq handle offset value =>
    obtain rfl := Option.some.inj h
    simp [decodeLike, decPrepWriteReq, encPrepWriteReq, prep_round_trip, carried, IsPrepWriteResp, hclip]
  | prepWriteResp handle offset value =>
    obtain rfl := Option.some.inj h
    refine ⟨fun _ => ?_, fun hm => absurd trivial hm⟩
    -- the decoder asks for the opcode of the request
    have hop : (encPrepWriteResp handle offset value mtu.toNat).opcode ≠ attOpPrepWriteReq := by
      simp only [encPrepWriteResp, encPrepWrite]
      decide
    have hdec : decPrepWriteResp (encPrepWriteResp handle offset value mtu.toNat) = none := by
      simp [decPrepWriteResp, decPrepWrite, hop]
    simp [decodeLike, hdec]
  | execWriteReq flags =>
    simp [decodeLike, execWrite_round_trip h, carried, IsPrepWriteResp]
  | indication handle value =>
    simp [decodeLike, indication_round_trip h, carried, IsPrepWriteResp]

theorem message_round_trip_read : decodeLike ⟨attOpReadResp, [100]⟩ (.readResp [100]) = some (.readResp [100]) :=
  (message_round_trip (fun _ => none) (.readResp [100]) 23 (by decide) ⟨attOpReadResp, [100]⟩ rfl).2 id

/-! The responses with a list: what is accepted is exactly what the encoder writes. -/

variable {list : AttDataList} {elen : UInt8} {data : List UInt8}

theorem AttDataList.ext_data {a b : AttDataList} (hl : a.len = b.len) (hd : a.data = b.data) :
    a = b := by
  obtain ⟨al, ad, _, _⟩ := a
  obtain ⟨bl, bd, _, _⟩ := b
  simp only at hl hd
  subst hl hd
  rfl

theorem ofNat_len (list : AttDataList) : (UInt8.ofNat list.len).toNat = list.len := by
  have := list.byte
  rw [UInt8.toNat_ofNat']
  omega

/-- The entries are all the bytes up to the last one that ends an entry. -/
theorem entriesOf_flatten (elen : UInt8) (hlen : data.length < 65536) :
    (entriesOf elen data).data.flatten = data.take (data.length / elen.toNat * elen.toNat) := by
  have hcount : data.length / elen.toNat % 65536 = data.length / elen.toNat :=
    Nat.mod_eq_of_lt (Nat.lt_of_le_of_lt (Nat.div_le_self _ _) hlen)
  rw [entriesOf, flatten_splitRecords, hcount]

theorem entriesOf_all (hd : data.length % elen.toNat = 0) (hlen : data.length < 65536) :
    (entriesOf elen data).data.flatten = data := by
  rw [entriesOf_flatten elen hlen, Nat.mul_comm, Nat.mul_div_cancel' (Nat.dvd_of_mod_eq_zero hd)]
  exact List.take_of_length_le (Nat.le_refl _)

theorem entriesOf_append {rest : List UInt8} (h : list.data.length < 65536)
    (hrest : rest.length < list.len) :
    entriesOf (UInt8.ofNat list.len) (list.data.flatten ++ rest) = list := by
  refine AttDataList.ext_data (ofNat_len list) ?_
  have hcount : (list.data.flatten ++ rest).length / list.len = list.data.length := by
    rw [List.length_append, flatten_length list.uniform, Nat.mul_comm, Nat.mul_add_div (by omega),
      Nat.div_eq_of_lt hrest, Nat.add_zero]
  simp only [entriesOf]
  rw [ofNat_len, hcount, Nat.mod_eq_of_lt h, splitRecords_flatten list.uniform]

/-- The response has an entry at least, each of the size that it must have, and nothing else. -/
structure Exact (least : ℕ) (list : AttDataList) (p : Pdu) : Prop where
  entry : least ≤ list.len
  some_entry : list.data ≠ []
  bytes : p.payload = UInt8.ofNat list.len :: list.data.flatten

theorem exact_length {least : ℕ} (h : Exact least list p) :
    p.length = 2 + list.data.length * list.len := by
  rw [Pdu.length, h.bytes, List.length_cons, flatten_length list.uniform]
  omega

theorem entriesOf_exact (hd : data.length % elen.toNat = 0) (hlen : data.length < 65536)
    (hpos : 0 < data.length) : (entriesOf elen data).data ≠ [] := by
  intro hnil
  have hflat := entriesOf_all hd hlen
  rw [hnil, List.flatten_nil] at hflat
  rw [← hflat] at hpos
  exact Nat.lt_irrefl 0 hpos

theorem decList_exact {leastLen least : ℕ} (hpos : 0 < least) (hlen : leastLen = 2 + least)
    (hp : p.length < 65536) :
    decList opcode leastLen least p = some list ↔ p.opcode = opcode ∧ Exact least list p := by
  obtain ⟨op, payload⟩ := p
  cases payload with
  | nil =>
    refine ⟨fun h => by simp [decList] at h, fun h => ?_⟩
    have hbytes := h.2.bytes
    cases hbytes
  | cons elen data =>
    have hlength : Pdu.length ⟨op, elen :: data⟩ = data.length + 2 := rfl
    rw [hlength] at hp
    constructor
    · intro h
      simp only [decList, hlength] at h
      by_cases hop : op = opcode
      · by_cases hshort : data.length + 2 < leastLen
        · simp [hop, hshort] at h
        · by_cases hentry : elen.toNat < least
          · simp [hop, hshort, hentry] at h
          · by_cases hmod : data.length % elen.toNat = 0
            · rw [if_neg (by simp [hop]), if_neg hshort, if_neg hentry, if_neg (by simp [hmod])] at h
              obtain rfl := Option.some.inj h
              refine ⟨hop, by simpa [entriesOf] using hentry,
                entriesOf_exact hmod (by omega) (by omega), ?_⟩
              rw [entriesOf_all hmod (by omega)]
              simp [entriesOf]
            · simp [hop, hshort, hentry, hmod] at h
      · simp [hop] at h
    · rintro ⟨hop, hexact⟩
      obtain ⟨helen, hdata⟩ := List.cons.inj hexact.bytes
      have hsize : data.length = list.data.length * list.len := by
        rw [hdata, flatten_length list.uniform]
      have hcount := List.length_pos_iff.mpr hexact.some_entry
      have hentry := hexact.entry
      have hge : list.len ≤ list.data.length * list.len := Nat.le_mul_of_pos_left _ hcount
      have hle : list.data.length ≤ list.data.length * list.len :=
        Nat.le_mul_of_pos_right _ (by omega)
      have hall : entriesOf (UInt8.ofNat list.len) list.data.flatten = list := by
        have happ : entriesOf (UInt8.ofNat list.len) (list.data.flatten ++ []) = list :=
          entriesOf_append (by omega) (by simp; omega)
        rwa [List.append_nil] at happ
      simp only [decList, hlength]
      rw [if_neg (not_not_intro hop), if_neg (by omega), helen, ofNat_len, if_neg (by omega), hsize,
        Nat.mul_mod_left, if_neg (not_not_intro rfl), hdata, hall]

/-- `dec_find_info_resp` leaves out the bytes behind the last complete entry. -/
theorem decFindInfo_exact {format : UInt8} (hp : p.length < 65536) :
    decFindInfoResp p = .ok (some (format, list)) ↔ p.opcode = attOpFindInfoResp ∧
      list.len = (findInfoEntry format).toNat ∧ ∃ rest, rest.length < list.len ∧
        p.payload = format :: (list.data.flatten ++ rest) := by
  obtain ⟨op, payload⟩ := p
  cases payload with
  | nil =>
    refine ⟨fun h => ?_, fun ⟨_, _, rest, _, hbytes⟩ => by cases hbytes⟩
    simp only [decFindInfoResp] at h
    split at h <;> cases h
  | cons format' data =>
    have hlength : Pdu.length ⟨op, format' :: data⟩ = data.length + 2 := rfl
    rw [hlength] at hp
    have hpos : 0 < (findInfoEntry format').toNat := by
      rw [findInfoEntry]
      split
      · decide
      · split <;> decide
    constructor
    · intro h
      simp only [decFindInfoResp] at h
      split at h
      · cases h
      · rename_i hop
        obtain ⟨rfl, rfl⟩ := Prod.mk.inj (Option.some.inj (Except.ok.inj h))
        refine ⟨Decidable.of_not_not hop, rfl,
          data.drop (data.length / (findInfoEntry format').toNat * (findInfoEntry format').toNat), ?_, ?_⟩
        · have hmod := Nat.mod_lt data.length hpos
          have hdiv := Nat.div_add_mod' data.length (findInfoEntry format').toNat
          rw [List.length_drop]
          simp only [entriesOf]
          omega
        · rw [entriesOf_flatten _ (by omega), List.take_append_drop]
    · rintro ⟨hop, hlen, rest, hrest, hbytes⟩
      obtain ⟨rfl, rfl⟩ := List.cons.inj hbytes
      have hentry : findInfoEntry format' = UInt8.ofNat list.len := by
        rw [hlen, UInt8.ofNat_toNat]
      have hcount : list.data.length ≤ list.data.length * list.len :=
        Nat.le_mul_of_pos_right _ (by omega)
      rw [List.length_append, flatten_length list.uniform] at hp
      simp only [decFindInfoResp]
      rw [if_neg (not_not_intro hop), hentry, entriesOf_append (by omega) hrest]

theorem putRange_length (range : AttRange) : (putRange range).length = 4 := by
  simp [putRange]

theorem getRange_putRange (range : AttRange) : getRange (putRange range) = range := by
  have hdrop : (putRange range).drop 2 = putLe16 range.end_ := drop_putLe16 range.start _ 0
  rw [getRange, hdrop, getLe16_alone, putRange, getLe16_putLe16]

theorem putRange_getRange (h : data.length = 4) : putRange (getRange data) = data := by
  have hdrop : (data.drop 2).take 2 = data.drop 2 :=
    List.take_of_length_le (by rw [List.length_drop]; omega)
  rw [putRange, getRange, putLe16_getLe16 (by omega),
    putLe16_getLe16 (by rw [List.length_drop]; omega), hdrop, List.take_append_drop]

theorem decFindByType_exact {ranges : List AttRange} (hne : ranges ≠ []) :
    decFindByTypeResp p = ranges ↔
      p.opcode = attOpFindByTypeResp ∧ p.payload = (ranges.map putRange).flatten := by
  obtain ⟨op, payload⟩ := p
  have hlength : Pdu.length ⟨op, payload⟩ = payload.length + 1 := rfl
  have huniform : ∀ d ∈ ranges.map putRange, d.length = 4 := by
    intro d hd
    obtain ⟨range, -, rfl⟩ := List.mem_map.mp hd
    exact putRange_length range
  constructor
  · intro h
    simp only [decFindByTypeResp, hlength] at h
    split at h
    · exact absurd h.symm hne
    · split at h
      · exact absurd h.symm hne
      · split at h
        · exact absurd h.symm hne
        · rename_i hop hmod
          have hdvd : payload.length / 4 * 4 = payload.length := by omega
          have hback : ranges.map putRange = splitRecords 4 (payload.length / 4) payload := by
            have hid : ∀ d ∈ splitRecords 4 (payload.length / 4) payload,
                (putRange ∘ getRange) d = d :=
              fun d hd => putRange_getRange (splitRecords_size (Nat.le_of_eq hdvd) d hd)
            rw [← h, List.map_map, List.map_congr_left hid, List.map_id']
          refine ⟨Decidable.of_not_not hop, ?_⟩
          rw [hback, flatten_splitRecords, hdvd, List.take_length]
  · rintro ⟨hop, hbytes⟩
    dsimp only at hbytes
    have hsize : payload.length = ranges.length * 4 := by
      rw [hbytes, flatten_length huniform, List.length_map]
    have hcount := List.length_pos_iff.mpr hne
    have hsplit := splitRecords_flatten huniform []
    rw [List.append_nil, List.length_map] at hsplit
    simp only [decFindByTypeResp, hlength]
    rw [if_neg (by omega), if_neg (not_not_intro hop), if_neg (by omega), hsize,
      Nat.mul_div_cancel _ (by decide), hbytes, hsplit, List.map_map]
    exact List.map_id'' getRange_putRange _

/-- All entries have place in one PDU of the size of the MTU. -/
def Fits (mtu : BitVec 16) (list : AttDataList) : Prop := 2 + list.data.length * list.len ≤ mtu.toNat

variable {mtu : BitVec 16}

theorem fits_entry (h : Fits mtu list) (hne : list.data ≠ []) : list.len + 2 ≤ mtu.toNat := by
  have hcount := List.length_pos_iff.mpr hne
  have hge : list.len ≤ list.data.length * list.len := Nat.le_mul_of_pos_left _ hcount
  have hfit : 2 + list.data.length * list.len ≤ mtu.toNat := h
  omega

theorem encGrp_fitting (h : Fits mtu list) (hne : list.data ≠ []) : encReadByGrpResp list mtu =
    some ⟨attOpReadByGroupResp, UInt8.ofNat list.len :: list.data.flatten⟩ := by
  have hentry := fits_entry h hne
  rw [encReadByGrpResp, if_neg (by omega), fitting_all h]

theorem encType_fitting (h : Fits mtu list) (hne : list.data ≠ []) : encReadByTypeResp list mtu =
    ⟨attOpReadByTypeResp, UInt8.ofNat list.len :: list.data.flatten⟩ := by
  have hleast := fits_entry h hne
  have hfit : 2 + list.data.length * list.len ≤ mtu.toNat := h
  have hentry : entryRoom list mtu = list.len := by
    rw [entryRoom, if_pos (by omega), Nat.min_eq_right (by omega)]
  have hwhole : ∀ d ∈ list.data, d.take list.len = d := fun d hd =>
    List.take_of_length_le (Nat.le_of_eq (list.uniform d hd))
  rw [encReadByTypeResp, hentry, List.map_congr_left hwhole, List.map_id', fitting_all hfit]

theorem encInfo_fitting (format : UInt8) (h : Fits mtu list) (hentry : list.len + 2 ≤ mtu.toNat) :
    encFindInfoResp format list mtu = some ⟨attOpFindInfoResp, format :: list.data.flatten⟩ := by
  rw [encFindInfoResp, if_neg (by omega), fitting_all h]

theorem encRanges_fitting {ranges : List AttRange} (h : 1 + ranges.length * 4 ≤ mtu.toNat) :
    encFindByTypeResp ranges mtu = ⟨attOpFindByTypeResp, (ranges.map putRange).flatten⟩ := by
  rw [encFindByTypeResp, fitting_all (by rw [List.length_map]; exact h)]

theorem exact_fits {least : ℕ} (hp : p.length ≤ mtu.toNat) (h : Exact least list p) : Fits mtu list := by
  rw [Fits, ← exact_length h]
  exact hp

theorem findInfoEntry_le (format : UInt8) : (findInfoEntry format).toNat ≤ 18 := by
  rw [findInfoEntry]
  split
  · decide
  · split <;> decide

theorem grpList_round_trip (hp : p.length ≤ mtu.toNat) : decReadByGrpResp p = some list ↔
    5 ≤ list.len ∧ list.data ≠ [] ∧ Fits mtu list ∧ encReadByGrpResp list mtu = some p := by
  have hword : p.length < 65536 := Nat.lt_of_le_of_lt hp mtu.isLt
  rw [decReadByGrpResp, decList_exact (show 0 < 5 by decide) (show 7 = 2 + 5 from rfl) hword]
  constructor
  · rintro ⟨hop, hexact⟩
    have hfits := exact_fits hp hexact
    refine ⟨hexact.entry, hexact.some_entry, hfits, ?_⟩
    rw [encGrp_fitting hfits hexact.some_entry, ← hop, ← hexact.bytes]
  · rintro ⟨hentry, hsome, hfits, henc⟩
    rw [encGrp_fitting hfits hsome] at henc
    obtain rfl := Option.some.inj henc
    exact ⟨rfl, hentry, hsome, rfl⟩

theorem typeList_round_trip (hp : p.length ≤ mtu.toNat) : decReadByTypeResp p = some list ↔
    3 ≤ list.len ∧ list.data ≠ [] ∧ Fits mtu list ∧ encReadByTypeResp list mtu = p := by
  have hword : p.length < 65536 := Nat.lt_of_le_of_lt hp mtu.isLt
  rw [decReadByTypeResp, decList_exact (show 0 < 3 by decide) (show 5 = 2 + 3 from rfl) hword]
  constructor
  · rintro ⟨hop, hexact⟩
    have hfits := exact_fits hp hexact
    refine ⟨hexact.entry, hexact.some_entry, hfits, ?_⟩
    rw [encType_fitting hfits hexact.some_entry, ← hop, ← hexact.bytes]
  · rintro ⟨hentry, hsome, hfits, rfl⟩
    rw [encType_fitting hfits hsome]
    exact ⟨rfl, hentry, hsome, rfl⟩

theorem infoList_round_trip {format : UInt8} (hmtu : 23 ≤ mtu.toNat) (hp : p.length ≤ mtu.toNat) :
    decFindInfoResp p = .ok (some (format, list)) ↔
      list.len = (findInfoEntry format).toNat ∧ Fits mtu list ∧ ∃ q rest,
        encFindInfoResp format list mtu = some q ∧ rest.length < list.len ∧
          p = ⟨q.opcode, q.payload ++ rest⟩ := by
  have hroom : list.len = (findInfoEntry format).toNat → list.len + 2 ≤ mtu.toNat := fun hlen => by
    have hle := findInfoEntry_le format
    omega
  rw [decFindInfo_exact (Nat.lt_of_le_of_lt hp mtu.isLt)]
  constructor
  · rintro ⟨hop, hlen, rest, hrest, hbytes⟩
    have hfits : Fits mtu list := by
      rw [Pdu.length, hbytes, List.length_cons, List.length_append,
        flatten_length list.uniform] at hp
      rw [Fits]
      omega
    refine ⟨hlen, hfits, _, rest, encInfo_fitting format hfits (hroom hlen), hrest, ?_⟩
    rw [List.cons_append, ← hop, ← hbytes]
  · rintro ⟨hlen, hfits, q, rest, henc, hrest, rfl⟩
    rw [encInfo_fitting format hfits (hroom hlen)] at henc
    obtain rfl := Option.some.inj henc
    exact ⟨rfl, hlen, rest, hrest, rfl⟩

theorem ranges_round_trip {ranges : List AttRange} (hp : p.length ≤ mtu.toNat) (hne : ranges ≠ []) :
    decFindByTypeResp p = ranges ↔
      1 + ranges.length * 4 ≤ mtu.toNat ∧ encFindByTypeResp ranges mtu = p := by
  rw [decFindByType_exact hne]
  constructor
  · rintro ⟨hop, hbytes⟩
    have hfits : 1 + ranges.length * 4 ≤ mtu.toNat := by
      have huniform : ∀ d ∈ ranges.map putRange, d.length = 4 := by simp [putRange_length]
      rw [Pdu.length, hbytes, flatten_length huniform, List.length_map] at hp
      omega
    refine ⟨hfits, ?_⟩
    rw [encRanges_fitting hfits, ← hop, ← hbytes]
  · rintro ⟨hfits, rfl⟩
    rw [encRanges_fitting hfits]
    exact ⟨rfl, rfl⟩

/-- With buffers of the size of the MTU, each response with a list is taken apart into exactly the list
that it is written from, if that has an entry, fits, and has entries of the size that they need. Only a
Find Information Response may have bytes behind its entries, fewer than one more would take. -/
theorem lists_round_trip (mtu : BitVec 16) (hmtu : 23 ≤ mtu.toNat) (p : Pdu) (hp : p.length ≤ mtu.toNat)
    (list : AttDataList) (format : UInt8) (ranges : List AttRange) :
    (decReadByGrpResp p = some list ↔
      5 ≤ list.len ∧ list.data ≠ [] ∧ Fits mtu list ∧ encReadByGrpResp list mtu = some p) ∧
    (decReadByTypeResp p = some list ↔
      3 ≤ list.len ∧ list.data ≠ [] ∧ Fits mtu list ∧ encReadByTypeResp list mtu = p) ∧
    (decFindInfoResp p = .ok (some (format, list)) ↔
      list.len = (findInfoEntry format).toNat ∧ Fits mtu list ∧ ∃ q rest,
        encFindInfoResp format list mtu = some q ∧ rest.length < list.len ∧
          p = ⟨q.opcode, q.payload ++ rest⟩) ∧
    (ranges ≠ [] → (decFindByTypeResp p = ranges ↔
      1 + ranges.length * 4 ≤ mtu.toNat ∧ encFindByTypeResp ranges mtu = p)) :=
  ⟨grpList_round_trip hp, typeList_round_trip hp, infoList_round_trip hmtu hp, ranges_round_trip hp⟩

theorem lists_round_trip_two : decReadByGrpResp ⟨attOpReadByGroupResp, [6, 1, 0, 5, 0, 0, 0x18]⟩ =
      some (entriesOf 6 [1, 0, 5, 0, 0, 0x18]) :=
  (lists_round_trip 23 (by decide) ⟨attOpReadByGroupResp, [6, 1, 0, 5, 0, 0, 0x18]⟩ (by decide)
    (entriesOf 6 [1, 0, 5, 0, 0, 0x18]) 1 []).1.mpr
    ⟨by decide, by decide, by unfold Fits; decide, by decide⟩

end

end Gattlib.PduRoundTrips
