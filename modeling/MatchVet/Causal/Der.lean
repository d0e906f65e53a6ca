import MatchVet.Foundation.BigEndian
import MatchVet.Foundation.JsonDocument
import MatchVet.Foundation.Runtime

/-!
# The DER of time-stamp requests

Requests and responses of the time-stamp authority are DER: nested nodes of a tag
byte, a definite length and the content.  The reader accepts what the writer
writes and nothing else.
-/

namespace MatchVet.Causal.Der

open MatchVet.Foundation.BigEndian
open MatchVet.Foundation.Gregorian
open MatchVet.Foundation
open MatchVet.Foundation.JsonDocument (naturalChars padded_digits)
open MatchVet.Foundation.Runtime (bind_eq_ok)

/-- `WitnessError` with its text, an error of the language, or a loop without end. -/
inductive DerError where
  | witness (message : String)
  | language
  | endless
  deriving DecidableEq, Repr

theorem ok_bind {α β : Type} (value : α) (next : α → Except DerError β) :
    (Except.ok value >>= next) = next value := rfl

/-! ## Nodes -/

/-- `_Node`. -/
structure Node where
  tag : UInt8
  content : Bytes
  raw : Bytes
  deriving DecidableEq, Repr

/-- The length after a tag: its value and how many bytes follow the first. -/
def readLength (size : UInt8) (rest : Bytes) : Except DerError (ℕ × ℕ) :=
  if size.toNat < 128 then .ok (size.toNat, 0)
  else
    let width := size.toNat % 128
    if ¬(1 ≤ width ∧ width ≤ 4) ∨ rest.length < width ∨ rest.head? = some 0 then
      .error (.witness "Indefinite or nonminimal DER length.")
    else
      let size := fromBytes (rest.take width)
      if size < 128 then .error (.witness "Nonminimal DER length.") else .ok (size, width)

/-- `_read`: the node at an offset and the offset behind it. -/
def read (raw : Bytes) (offset : ℕ) : Except DerError (Node × ℕ) :=
  match raw.drop offset with
  | tag :: first :: rest =>
      if tag.toNat % 32 = 31 then .error (.witness "Truncated or unsupported DER tag.")
      else do
        let (size, width) ← readLength first rest
        if (rest.drop width).length < size then
          .error (.witness "DER exceeds its containing object.")
        else
          .ok (⟨tag, (rest.drop width).take size, (raw.drop offset).take (2 + width + size)⟩,
            offset + (2 + width + size))
  | _ => .error (.witness "Truncated or unsupported DER tag.")

/-- `_der`. -/
def der (tag : UInt8) (raw : Bytes) : Bytes :=
  let size := raw.length
  let encoded := toBytes (max 1 (byteWidth size)) size
  let length := if size < 128 then [UInt8.ofNat size]
    else UInt8.ofNat (128 ||| encoded.length) :: encoded
  tag :: (length ++ raw)

/-- `_node`. -/
def node (raw : Bytes) (tag : UInt8) : Except DerError Node := do
  let (value, last) ← read raw 0
  if last ≠ raw.length ∨ value.tag ≠ tag then
    .error (.witness "Unexpected DER structure or trailing bytes.")
  else .ok value

/-! ## Reading back -/

theorem or_of_lt {width : ℕ} (hwidth : width < 128) : 128 ||| width = 128 + width := by
  have hsum := Nat.two_pow_add_eq_or_of_lt (i := 7) hwidth 1
  rw [Nat.mul_one] at hsum
  exact hsum.symm

/-- The header of a node: its tag and the length of its content. -/
def header (tag : UInt8) (size : ℕ) : Bytes :=
  tag :: if size < 128 then [UInt8.ofNat size]
    else UInt8.ofNat (128 ||| (toBytes (max 1 (byteWidth size)) size).length) ::
      toBytes (max 1 (byteWidth size)) size

theorem der_eq (tag : UInt8) (raw : Bytes) : der tag raw = header tag raw.length ++ raw := rfl

theorem byteWidth_small {size : ℕ} (hlong : 128 ≤ size) (hsize : size < 2 ^ 32) :
    1 ≤ byteWidth size ∧ byteWidth size ≤ 4 := by
  have hlow : 0 < byteWidth size := lt_byteWidth.mpr (by rw [pow_zero]; omega)
  exact ⟨hlow, byteWidth_le.mpr (lt_of_lt_of_le hsize (by decide))⟩

/-- The length of a written node is read back. -/
theorem readLength_header {tag : UInt8} {size : ℕ} (hsize : size < 2 ^ 32) (rest : Bytes) :
    ∃ first width, ∃ more : Bytes, header tag size = tag :: first :: more ∧ more.length = width ∧
      readLength first (more ++ rest) = .ok (size, width) := by
  unfold header
  by_cases hshort : size < 128
  · refine ⟨UInt8.ofNat size, 0, [], by rw [if_pos hshort], rfl, ?_⟩
    have hfirst : (UInt8.ofNat size).toNat = size := by
      rw [UInt8.toNat_ofNat']
      omega
    unfold readLength
    rw [hfirst, if_pos hshort]
  · obtain ⟨hlow, hhigh⟩ := byteWidth_small (not_lt.mp hshort) hsize
    obtain ⟨byte, tail, hbytes, hbyte⟩ :=
      @toBytes_byteWidth size (by omega)
    have hmax : max 1 (byteWidth size) = byteWidth size := max_eq_right hlow
    have hlength := toBytes_length (byteWidth size) size
    refine ⟨UInt8.ofNat (128 ||| byteWidth size), byteWidth size, toBytes (byteWidth size) size,
      by rw [if_neg hshort, hmax, hlength], hlength, ?_⟩
    have hfirst : (UInt8.ofNat (128 ||| byteWidth size)).toNat = 128 + byteWidth size := by
      rw [UInt8.toNat_ofNat', or_of_lt (by omega)]
      omega
    have hmod : (128 + byteWidth size) % 128 = byteWidth size := by omega
    have hvalue : fromBytes (toBytes (byteWidth size) size) = size :=
      fromBytes_toBytes (byteWidth_le.mp le_rfl)
    have hhead : (toBytes (byteWidth size) size ++ rest).head? ≠ some 0 := by
      rw [hbytes]
      exact fun hzero => hbyte (Option.some.inj hzero)
    have hfits : ¬(toBytes (byteWidth size) size ++ rest).length < byteWidth size := by
      rw [List.length_append, hlength]
      omega
    unfold readLength
    dsimp only
    rw [hfirst, if_neg (by omega), hmod, if_neg (by tauto), List.take_left' hlength, hvalue,
      if_neg hshort]

/-- A written node is read back, whatever follows it. -/
theorem read_der {tag : UInt8} {content : Bytes} (htag : tag.toNat % 32 ≠ 31)
    (hcontent : content.length < 2 ^ 32) (before after : Bytes) :
    read (before ++ (der tag content ++ after)) before.length =
      .ok (⟨tag, content, der tag content⟩, before.length + (der tag content).length) := by
  obtain ⟨first, width, more, hheader, hmore, hlength⟩ :=
    @readLength_header tag _ hcontent (content ++ after)
  have hder : der tag content = tag :: first :: (more ++ content) := by
    rw [der_eq, hheader]
    rfl
  have hsize : (der tag content).length = 2 + width + content.length := by
    rw [hder, List.length_cons, List.length_cons, List.length_append]
    omega
  have hrest : ((more ++ content) ++ after).drop width = content ++ after := by
    rw [List.append_assoc, List.drop_left' hmore]
  unfold read
  rw [List.drop_left' rfl, hder, List.cons_append, List.cons_append]
  dsimp only
  rw [if_neg htag, List.append_assoc, hlength]
  change (if _ then _ else _) = _
  rw [← List.append_assoc, hrest, List.take_left' rfl, if_neg (by simp), ← hsize,
    ← List.cons_append, ← List.cons_append, ← hder, List.take_left' rfl]

/-- A length that is read is the only one for its value. -/
theorem readLength_eq_ok {tag first : UInt8} {rest : Bytes} {size width : ℕ}
    (hread : readLength first rest = .ok (size, width)) :
    width ≤ rest.length ∧ size < 2 ^ 32 ∧
      header tag size = tag :: first :: rest.take width := by
  unfold readLength at hread
  split at hread
  next hshort =>
    obtain ⟨rfl, rfl⟩ := Prod.mk.inj (Except.ok.inj hread)
    refine ⟨Nat.zero_le _, by omega, ?_⟩
    unfold header
    rw [if_pos hshort, UInt8.ofNat_toNat]
    rfl
  next hlong =>
    dsimp only at hread
    split at hread
    next => cases hread
    next hwidth =>
      split at hread
      next => cases hread
      next hsize =>
        obtain ⟨rfl, rfl⟩ := Prod.mk.inj (Except.ok.inj hread)
        push Not at hwidth
        obtain ⟨hfour, hfits, hhead⟩ := hwidth
        have hfirst := first.toNat_lt
        have htaken : (rest.take (first.toNat % 128)).length = first.toNat % 128 :=
          List.length_take_of_le hfits
        have hbound := fromBytes_lt (rest.take (first.toNat % 128))
        have hwritten := toBytes_fromBytes (rest.take (first.toNat % 128))
        rw [htaken] at hbound hwritten
        have hfour' : 256 ^ (first.toNat % 128) ≤ 256 ^ 4 :=
          Nat.pow_le_pow_right (by decide) hfour.2
        have hwide : byteWidth (fromBytes (rest.take (first.toNat % 128))) =
            first.toNat % 128 := by
          cases hbytes : rest.take (first.toNat % 128) with
          | nil =>
              rw [hbytes, List.length_nil] at htaken
              omega
          | cons byte tail =>
              have hnonzero : byte ≠ 0 := by
                rintro rfl
                refine hhead ?_
                rw [← List.take_append_drop (first.toNat % 128) rest, hbytes]
                rfl
              rw [byteWidth_fromBytes hnonzero]
              rw [hbytes, List.length_cons] at htaken
              exact htaken
        have hmax : max 1 (first.toNat % 128) = first.toNat % 128 := max_eq_right hfour.1
        have hmark : UInt8.ofNat (128 ||| (first.toNat % 128)) = first := by
          have hsum : 128 + first.toNat % 128 = first.toNat := by omega
          rw [or_of_lt (Nat.mod_lt _ (by decide)), hsum, UInt8.ofNat_toNat]
        refine ⟨hfits, lt_of_lt_of_le hbound hfour', ?_⟩
        unfold header
        rw [if_neg hsize, hwide, hmax, hwritten, htaken, hmark]

/-- What `read` accepts: the node is the written one, at the offset. -/
theorem read_eq_ok {raw : Bytes} {offset last : ℕ} {item : Node}
    (hread : read raw offset = .ok (item, last)) :
    item.raw = der item.tag item.content ∧ item.tag.toNat % 32 ≠ 31 ∧
      item.content.length < 2 ^ 32 ∧ last = offset + item.raw.length ∧
        raw.drop offset = item.raw ++ raw.drop last := by
  unfold read at hread
  split at hread
  next tag first rest hdrop =>
    split at hread
    next => cases hread
    next htag =>
      obtain ⟨⟨size, width⟩, hlength, hcontent⟩ := bind_eq_ok.mp hread
      dsimp only at hcontent
      split at hcontent
      next => cases hcontent
      next hfits =>
        obtain ⟨rfl, rfl⟩ := Prod.mk.inj (Except.ok.inj hcontent)
        obtain ⟨hwidth, hsize, hheader⟩ := @readLength_eq_ok tag _ _ _ _ hlength
        have hcontent : ((rest.drop width).take size).length = size :=
          List.length_take_of_le (not_lt.mp hfits)
        have htaken : (raw.drop offset).take (2 + width + size) =
            tag :: first :: (rest.take width ++ (rest.drop width).take size) := by
          rw [hdrop, Nat.add_assoc, Nat.add_comm 2, List.take_succ_cons, List.take_succ_cons,
            List.take_add]
        have hraw : (raw.drop offset).take (2 + width + size) =
            der tag ((rest.drop width).take size) := by
          rw [der_eq, hcontent, hheader, htaken]
          rfl
        have hlong : ((raw.drop offset).take (2 + width + size)).length = 2 + width + size := by
          rw [htaken, List.length_cons, List.length_cons, List.length_append, hcontent,
            List.length_take_of_le hwidth]
          omega
        refine ⟨hraw, htag, by rw [hcontent]; exact hsize, by rw [hlong], ?_⟩
        rw [← List.drop_drop, List.take_append_drop]
  next => cases hread

theorem der_length (tag : UInt8) (content : Bytes) :
    2 + content.length ≤ (der tag content).length := by
  rw [der_eq, List.length_append]
  unfold header
  split
  · simp only [List.length_cons, List.length_nil]
    omega
  · simp only [List.length_cons]
    omega

theorem read_advances {raw : Bytes} {offset last : ℕ} {item : Node}
    (hread : read raw offset = .ok (item, last)) :
    offset + 2 ≤ last ∧ last ≤ raw.length := by
  obtain ⟨hraw, -, -, hlast, hdrop⟩ := read_eq_ok hread
  have hlong := der_length item.tag item.content
  have hlength := congrArg List.length hdrop
  rw [List.length_append, List.length_drop, List.length_drop] at hlength
  rw [hraw] at hlast hlength
  omega

/-! ## The children of a node -/

/-- The loop of `children`. -/
def childrenFrom (content : Bytes) (offset : ℕ) : Except DerError (List Node) :=
  if offset < content.length then
    match _hread : read content offset with
    | .error error => .error error
    | .ok (item, last) => do
        let rest ← childrenFrom content last
        .ok (item :: rest)
  else .ok []
termination_by content.length - offset
decreasing_by
  have hadvances := read_advances _hread
  omega

/-- `_Node.children`. -/
def Node.children (item : Node) : Except DerError (List Node) := childrenFrom item.content 0

theorem childrenFrom_end {content : Bytes} {offset : ℕ} (hoffset : content.length ≤ offset) :
    childrenFrom content offset = .ok [] := by
  rw [childrenFrom, if_neg (not_lt.mpr hoffset)]

/-- One round of the loop. -/
theorem childrenFrom_step {content : Bytes} {offset last : ℕ} {item : Node}
    (hread : read content offset = .ok (item, last)) :
    childrenFrom content offset =
      (childrenFrom content last).bind fun rest => .ok (item :: rest) := by
  have hadvances := read_advances hread
  rw [childrenFrom, if_pos (by omega)]
  split
  next error herror =>
    rw [hread] at herror
    cases herror
  next found next hfound =>
    rw [hread] at hfound
    obtain ⟨rfl, rfl⟩ := Prod.mk.inj (Except.ok.inj hfound)
    rfl

/-- Children lie one after the other, and each takes two bytes at least. -/
theorem childrenFrom_eq_ok {content : Bytes} {offset : ℕ} {items : List Node}
    (hitems : childrenFrom content offset = .ok items) (hoffset : offset ≤ content.length) :
    (items.map Node.raw).flatten = content.drop offset ∧
      offset + 2 * items.length ≤ content.length ∧
        ∀ item ∈ items, item.raw = der item.tag item.content := by
  induction offset using childrenFrom.induct content generalizing items with
  | case1 offset hmore error herror =>
      rw [childrenFrom, if_pos hmore] at hitems
      split at hitems
      next => cases hitems
      next found next hfound =>
        rw [herror] at hfound
        cases hfound
  | case2 offset hmore item last hread ih =>
      rw [childrenFrom_step hread] at hitems
      obtain ⟨rest, hrest, hdone⟩ := bind_eq_ok.mp hitems
      obtain rfl := Except.ok.inj hdone
      have hadvances := read_advances hread
      obtain ⟨hraw, -, -, -, hdrop⟩ := read_eq_ok hread
      obtain ⟨hflatten, hcount, hraws⟩ := ih hrest hadvances.2
      refine ⟨?_, ?_, List.forall_mem_cons.mpr ⟨hraw, hraws⟩⟩
      · rw [List.map_cons, List.flatten_cons, hflatten, ← hdrop]
      · rw [List.length_cons]
        omega
  | case3 offset hend =>
      rw [childrenFrom, if_neg hend] at hitems
      obtain rfl := Except.ok.inj hitems
      refine ⟨?_, by simpa using hoffset, by simp⟩
      rw [List.map_nil, List.flatten_nil, List.drop_of_length_le (not_lt.mp hend)]

/-- A node as it is written. -/
def written (tag : UInt8) (content : Bytes) : Node := ⟨tag, content, der tag content⟩

/-- A node that can be read back. -/
structure Readable (item : Node) : Prop where
  raw : item.raw = der item.tag item.content
  tag : item.tag.toNat % 32 ≠ 31
  short : item.content.length < 2 ^ 32

/-- Written children are read back. -/
theorem childrenFrom_written {items : List Node} (hitems : ∀ item ∈ items, Readable item)
    (before : Bytes) :
    childrenFrom (before ++ (items.map Node.raw).flatten) before.length = .ok items := by
  induction items generalizing before with
  | nil => exact childrenFrom_end (by simp)
  | cons item rest ih =>
      obtain ⟨⟨hraw, htag, hshort⟩, hrest⟩ := List.forall_mem_cons.mp hitems
      have hread := read_der htag hshort before (rest.map Node.raw).flatten
      rw [← hraw] at hread
      have hnext := ih hrest (before ++ item.raw)
      rw [List.append_assoc, List.length_append] at hnext
      rw [List.map_cons, List.flatten_cons, childrenFrom_step hread, hnext]
      rfl

/-! ## Integers -/

/-- `_int`. -/
def int (value : Node) (tag : UInt8) : Except DerError ℤ :=
  if value.tag ≠ tag ∨ value.content = [] ∨ 65 < value.content.length ∨
      redundant value.content = true then
    .error (.witness "Nonminimal or unsupported DER integer.")
  else .ok (signed value.content)

/-- The accepted integers are the shortest encodings of their values, of 65 bytes at most. -/
theorem int_eq_ok {value : Node} {tag : UInt8} {result : ℤ} :
    int value tag = .ok result ↔ value.tag = tag ∧ value.content.length ≤ 65 ∧
      Shortest value.content ∧ signed value.content = result := by
  rw [shortest_iff]
  unfold int
  constructor
  · intro hint
    split at hint
    next => cases hint
    next hvalid =>
      push Not at hvalid
      obtain ⟨htag, hsome, hlength, hshort⟩ := hvalid
      exact ⟨htag, hlength, ⟨hsome, Bool.eq_false_iff.mpr hshort⟩, Except.ok.inj hint⟩
  · rintro ⟨htag, hlength, ⟨hsome, hshort⟩, rfl⟩
    refine if_neg ?_
    rintro (hother | hnone | hlong | hredundant)
    · exact hother htag
    · exact hsome hnone
    · omega
    · rw [hshort] at hredundant
      cases hredundant

/-! ## Object identifiers -/

/-- The state of the loop of `_oid`. -/
structure Arcs where
  arcs : List ℕ
  current : ℕ
  firstByte : Bool
  deriving DecidableEq, Repr

def oidStep (state : Arcs) (byte : UInt8) : Except DerError Arcs :=
  let current := state.current * 128 + byte.toNat % 128
  if state.firstByte = true ∧ byte = 128 then .error (.witness "Nonminimal DER OID.")
  else if 64 < Nat.size current then .error (.witness "Unsupported DER OID.")
  else if byte.toNat < 128 then .ok ⟨state.arcs ++ [current], 0, true⟩
  else .ok ⟨state.arcs, current, false⟩

/-- `".".join(map(str, arcs))`. -/
def dotted (arcs : List ℕ) : String :=
  String.ofList (['.'].intercalate (arcs.map naturalChars))

/-- `_oid`. -/
def oid (value : Node) : Except DerError String :=
  if value.tag ≠ 6 ∨ value.content = [] then .error (.witness "Malformed DER OID.")
  else do
    let state ← value.content.foldlM oidStep ⟨[], 0, true⟩
    if state.firstByte = false then .error (.witness "Truncated DER OID.")
    else
      match state.arcs with
      | [] => .error .language
      | first :: rest =>
          let arc := min (first / 40) 2
          .ok (dotted (arc :: (first - arc * 40) :: rest))

def isBlank (char : Char) : Bool :=
  char = ' ' || (9 ≤ char.toNat && char.toNat ≤ 13) || (28 ≤ char.toNat && char.toNat ≤ 31)

/-- The digits of `int(text)`, with single underscores between them. -/
def readDecimal (chars : List Char) : Option ℕ :=
  let parts := chars.splitOn '_'
  if parts.any List.isEmpty then none else readDigits parts.flatten

/-- `int(text)` of an ASCII text. -/
def readInt (chars : List Char) : Option ℤ :=
  match ((chars.dropWhile isBlank).reverse.dropWhile isBlank).reverse with
  | '-' :: rest => (readDecimal rest).map fun value => -(value : ℤ)
  | '+' :: rest => (readDecimal rest).map fun value => (value : ℤ)
  | rest => (readDecimal rest).map fun value => (value : ℤ)

/-- The groups of seven bits of a number, the lowest first, each with its mark. -/
def continuation (value : ℕ) : Bytes :=
  if value = 0 then [] else UInt8.ofNat (128 + value % 128) :: continuation (value / 128)
termination_by value
decreasing_by omega

def arcBytes (value : ℕ) : Bytes :=
  (UInt8.ofNat (value % 128) :: continuation (value / 128)).reverse

/-- The bytes of one arc; the loop over a negative number does not end. -/
def encodeArc : ℤ → Except DerError Bytes
  | .ofNat value => .ok (arcBytes value)
  | .negSucc _ => .error .endless

def parseArc (chars : List Char) : Except DerError ℤ :=
  match readInt chars with
  | some value => .ok value
  | none => .error .language

/-- `_oid_der`. -/
def oidDer (text : String) : Except DerError Bytes := do
  let arcs ← (text.toList.splitOn '.').mapM parseArc
  match arcs with
  | first :: second :: rest => do
      let encoded ← ((40 * first + second) :: rest).mapM encodeArc
      .ok (der 6 encoded.flatten)
  | _ => .error .language

/-! ### Reading arcs -/

theorem continuation_zero : continuation 0 = [] := by rw [continuation, if_pos rfl]

theorem continuation_of_pos {value : ℕ} (hvalue : value ≠ 0) :
    continuation value = UInt8.ofNat (128 + value % 128) :: continuation (value / 128) := by
  rw [continuation, if_neg hvalue]

/-- The bytes that a state of the loop has read. -/
structure Consumed (state : Arcs) (done : Bytes) : Prop where
  bytes : done = state.arcs.flatMap arcBytes ++ (continuation state.current).reverse
  fresh : state.firstByte = true ↔ state.current = 0
  fits : ∀ arc ∈ state.arcs, arc < 2 ^ 64

theorem consumed_start : Consumed ⟨[], 0, true⟩ [] :=
  ⟨by rw [continuation_zero]; rfl, by simp, by simp⟩

theorem Consumed.step {state next : Arcs} {done : Bytes} {byte : UInt8}
    (hstate : Consumed state done) (hstep : oidStep state byte = .ok next) :
    Consumed next (done ++ [byte]) := by
  obtain ⟨hbytes, hfresh, hfits⟩ := hstate
  have hbyte := byte.toNat_lt
  unfold oidStep at hstep
  dsimp only at hstep
  split at hstep
  next => cases hstep
  next hminimal =>
    split at hstep
    next => cases hstep
    next hsize =>
      have hlt := Nat.size_le.mp (not_lt.mp hsize)
      split at hstep
      next hlast =>
        obtain rfl := Except.ok.inj hstep
        have hmod : (state.current * 128 + byte.toNat % 128) % 128 = byte.toNat := by omega
        have hdiv : (state.current * 128 + byte.toNat % 128) / 128 = state.current := by omega
        refine ⟨?_, by simp, ?_⟩
        · rw [List.flatMap_append, List.flatMap_singleton, arcBytes, hmod, hdiv,
            UInt8.ofNat_toNat, continuation_zero, hbytes]
          simp
        · intro arc harc
          rcases List.mem_append.mp harc with hold | hnew
          · exact hfits arc hold
          · obtain rfl := List.mem_singleton.mp hnew
            exact hlt
      next hmore =>
        obtain rfl := Except.ok.inj hstep
        have hpositive : state.current * 128 + byte.toNat % 128 ≠ 0 := by
          intro hzero
          have hcurrent : state.current = 0 := by omega
          have hmark : byte = 128 := by
            refine UInt8.toNat_inj.mp ?_
            change byte.toNat = 128
            omega
          exact hminimal ⟨hfresh.mpr hcurrent, hmark⟩
        have hmod : 128 + (state.current * 128 + byte.toNat % 128) % 128 = byte.toNat := by
          omega
        have hdiv : (state.current * 128 + byte.toNat % 128) / 128 = state.current := by omega
        refine ⟨?_, ⟨nofun, fun hzero => absurd hzero hpositive⟩, hfits⟩
        dsimp only
        rw [continuation_of_pos hpositive, hmod, hdiv, UInt8.ofNat_toNat, hbytes]
        simp

theorem Consumed.run {state last : Arcs} {done rest : Bytes} (hstate : Consumed state done)
    (hrun : rest.foldlM oidStep state = .ok last) : Consumed last (done ++ rest) := by
  induction rest generalizing state done with
  | nil =>
      obtain rfl := Except.ok.inj hrun
      rwa [List.append_nil]
  | cons byte rest ih =>
      rw [List.foldlM_cons] at hrun
      obtain ⟨next, hstep, hrest⟩ := bind_eq_ok.mp hrun
      have hdone := ih (hstate.step hstep) hrest
      rwa [List.append_assoc] at hdone

/-- The marked groups of a number are read to the number. -/
theorem read_continuation {value : ℕ} (hvalue : value < 2 ^ 64) (arcs : List ℕ) :
    (continuation value).reverse.foldlM oidStep ⟨arcs, 0, true⟩ =
      .ok ⟨arcs, value, decide (value = 0)⟩ := by
  induction value using Nat.strongRecOn with
  | ind value ih =>
      by_cases hzero : value = 0
      · subst hzero
        rw [continuation_zero]
        rfl
      · have hbefore := ih (value / 128) (by omega) (by omega)
        have hbyte : (UInt8.ofNat (128 + value % 128)).toNat = 128 + value % 128 := by
          rw [UInt8.toNat_ofNat']
          omega
        have hcurrent : value / 128 * 128 + (128 + value % 128) % 128 = value := by omega
        have hsize : ¬64 < Nat.size value := not_lt.mpr (Nat.size_le.mpr hvalue)
        have hminimal : ¬(decide (value / 128 = 0) = true ∧
            UInt8.ofNat (128 + value % 128) = 128) := by
          rintro ⟨hsmall, hmark⟩
          rw [decide_eq_true_eq] at hsmall
          have hmark' := congrArg UInt8.toNat hmark
          rw [hbyte] at hmark'
          change 128 + value % 128 = 128 at hmark'
          omega
        rw [continuation_of_pos hzero, List.reverse_cons, List.foldlM_append, hbefore]
        change oidStep _ _ >>= _ = _
        unfold oidStep
        dsimp only
        rw [hbyte, hcurrent, if_neg hminimal, if_neg hsize, if_neg (by omega),
          decide_eq_false hzero]
        rfl

theorem read_arc {value : ℕ} (hvalue : value < 2 ^ 64) (arcs : List ℕ) :
    (arcBytes value).foldlM oidStep ⟨arcs, 0, true⟩ = .ok ⟨arcs ++ [value], 0, true⟩ := by
  have hbefore := @read_continuation (value / 128) (by omega) arcs
  have hbyte : (UInt8.ofNat (value % 128)).toNat = value % 128 := by
    rw [UInt8.toNat_ofNat']
    omega
  have hcurrent : value / 128 * 128 + value % 128 % 128 = value := by omega
  have hminimal : ¬(decide (value / 128 = 0) = true ∧ UInt8.ofNat (value % 128) = 128) := by
    rintro ⟨-, hmark⟩
    have hmark' := congrArg UInt8.toNat hmark
    rw [hbyte] at hmark'
    change value % 128 = 128 at hmark'
    omega
  have hsize : ¬64 < Nat.size value := not_lt.mpr (Nat.size_le.mpr hvalue)
  unfold arcBytes
  rw [List.reverse_cons, List.foldlM_append, hbefore]
  change oidStep _ _ >>= _ = _
  unfold oidStep
  dsimp only
  rw [hbyte, hcurrent, if_neg hminimal, if_neg hsize, if_pos (by omega)]
  rfl

theorem read_arcs {values : List ℕ} (hvalues : ∀ value ∈ values, value < 2 ^ 64)
    (arcs : List ℕ) :
    (values.flatMap arcBytes).foldlM oidStep ⟨arcs, 0, true⟩ =
      .ok ⟨arcs ++ values, 0, true⟩ := by
  induction values generalizing arcs with
  | nil =>
      rw [List.append_nil]
      rfl
  | cons value rest ih =>
      obtain ⟨hvalue, hrest⟩ := List.forall_mem_cons.mp hvalues
      have hnext := ih hrest (arcs ++ [value])
      rw [List.append_assoc] at hnext
      rw [List.flatMap_cons, List.foldlM_append, read_arc hvalue]
      exact hnext

/-! ### Texts of arcs -/

theorem naturalChars_digits (value : ℕ) :
    ∀ char ∈ naturalChars value, JsonDocument.isDigit char = true :=
  padded_digits _ _

/-- Digits are no separators, signs or blanks. -/
theorem digit_ne {char : Char} (hchar : JsonDocument.isDigit char = true) :
    char ≠ '.' ∧ char ≠ '_' ∧ char ≠ '-' ∧ char ≠ '+' ∧ isBlank char = false := by
  have hrange : 48 ≤ char.toNat ∧ char.toNat ≤ 57 := by
    unfold JsonDocument.isDigit digitValue? at hchar
    split at hchar
    next hrange => omega
    next => cases hchar
  have hne : ∀ other : Char, other.toNat < 48 ∨ 57 < other.toNat → char ≠ other := by
    rintro other hother rfl
    omega
  refine ⟨hne _ (by decide), hne _ (by decide), hne _ (by decide), hne _ (by decide), ?_⟩
  have hspace : char ≠ ' ' := hne _ (by decide)
  unfold isBlank
  simp only [Bool.or_eq_false_iff, Bool.and_eq_false_iff, decide_eq_false_iff_not]
  exact ⟨⟨hspace, by omega⟩, by omega⟩

theorem dropWhile_digits {chars : List Char}
    (hchars : ∀ char ∈ chars, JsonDocument.isDigit char = true) :
    chars.dropWhile isBlank = chars := by
  cases chars with
  | nil => rfl
  | cons char rest =>
      have hblank := (digit_ne (hchars char List.mem_cons_self)).2.2.2.2
      rw [List.dropWhile_cons_of_neg (by rw [hblank]; exact Bool.false_ne_true)]

/-- `int(str(value))`. -/
theorem readInt_naturalChars (value : ℕ) : readInt (naturalChars value) = some (value : ℤ) := by
  have hdigits := naturalChars_digits value
  have hreverse : ∀ char ∈ (naturalChars value).reverse, JsonDocument.isDigit char = true :=
    fun char hchar => hdigits char (List.mem_reverse.mp hchar)
  have hread : readDigits (naturalChars value) = some value :=
    readDigits_padded (Nat.lt_pow_succ_log_self (by decide) value)
  have hdecimal : readDecimal (naturalChars value) = some value := by
    have hfree : '_' ∉ naturalChars value := fun hmem => (digit_ne (hdigits _ hmem)).2.1 rfl
    have hsome := JsonDocument.naturalChars_ne_nil value
    unfold readDecimal
    dsimp only
    rw [List.splitOn_eq_singleton hfree]
    simp [hread, hsome]
  unfold readInt
  rw [dropWhile_digits hdigits, dropWhile_digits hreverse, List.reverse_reverse]
  split
  next rest heq =>
    rw [heq] at hdigits
    exact absurd rfl (digit_ne (hdigits _ List.mem_cons_self)).2.2.1
  next rest heq =>
    rw [heq] at hdigits
    exact absurd rfl (digit_ne (hdigits _ List.mem_cons_self)).2.2.2.1
  next =>
    rw [hdecimal]
    rfl

theorem parseArcs (arcs : List ℕ) :
    (arcs.map naturalChars).mapM parseArc = .ok (arcs.map Int.ofNat) := by
  induction arcs with
  | nil => rfl
  | cons arc rest ih =>
      have harc : parseArc (naturalChars arc) = .ok (arc : ℤ) := by
        unfold parseArc
        rw [readInt_naturalChars]
      rw [List.map_cons, List.mapM_cons, harc, ih]
      rfl

theorem encodeArcs (arcs : List ℕ) :
    (arcs.map Int.ofNat).mapM encodeArc = .ok (arcs.map arcBytes) := by
  induction arcs with
  | nil => rfl
  | cons arc rest ih =>
      rw [List.map_cons, List.mapM_cons, ih]
      rfl

theorem splitOn_dotted {arcs : List ℕ} (harcs : arcs ≠ []) :
    (dotted arcs).toList.splitOn '.' = arcs.map naturalChars := by
  unfold dotted
  rw [String.toList_ofList]
  refine List.splitOn_intercalate '.' ?_ (mt List.map_eq_nil_iff.mp harcs)
  intro chars hchars hdot
  obtain ⟨arc, -, rfl⟩ := List.mem_map.mp hchars
  exact (digit_ne (naturalChars_digits arc _ hdot)).1 rfl

/-- The identifier of two arcs and more is written arc by arc. -/
theorem oidDer_dotted (first second : ℕ) (rest : List ℕ) :
    oidDer (dotted (first :: second :: rest)) =
      .ok (der 6 (((40 * first + second) :: rest).flatMap arcBytes)) := by
  have hencoded := encodeArcs ((40 * first + second) :: rest)
  unfold oidDer
  rw [splitOn_dotted (List.cons_ne_nil _ _), parseArcs, List.flatMap_def]
  change (((40 * first + second) :: rest).map Int.ofNat).mapM encodeArc >>= _ = _
  rw [hencoded]
  rfl

/-- What `_oid` accepts is the encoding of what it returns. -/
theorem oid_eq_ok {value : Node} {text : String} (hoid : oid value = .ok text) :
    value.tag = 6 ∧ ∃ first second rest, text = dotted (first :: second :: rest) ∧
      value.content = ((40 * first + second) :: rest).flatMap arcBytes := by
  unfold oid at hoid
  split at hoid
  next => cases hoid
  next hvalid =>
    push Not at hvalid
    obtain ⟨htag, hsome⟩ := hvalid
    obtain ⟨state, hrun, hend⟩ := bind_eq_ok.mp hoid
    split at hend
    next => cases hend
    next hlast =>
      obtain ⟨hbytes, hfresh, -⟩ := consumed_start.run hrun
      have hcurrent := hfresh.mp (Bool.not_eq_false _ ▸ hlast)
      rw [hcurrent, continuation_zero, List.reverse_nil, List.append_nil,
        List.nil_append] at hbytes
      split at hend
      next => cases hend
      next first rest harcs =>
        refine ⟨htag, _, _, rest, (Except.ok.inj hend).symm, ?_⟩
        have hfirst : 40 * min (first / 40) 2 + (first - min (first / 40) 2 * 40) = first := by
          omega
        rw [hfirst, hbytes, harcs]

/-- The arcs of an object identifier whose encoded arcs have 64 bits at most. -/
inductive Dotted : List ℕ → Prop where
  | intro {first second : ℕ} {rest : List ℕ} : first ≤ 2 → (first < 2 → second < 40) →
      40 * first + second < 2 ^ 64 → (∀ arc ∈ rest, arc < 2 ^ 64) →
        Dotted (first :: second :: rest)

theorem arcBytes_ne_nil (value : ℕ) : arcBytes value ≠ [] := by
  unfold arcBytes
  simp

theorem oid_arcs {first second : ℕ} {rest : List ℕ} (harcs : Dotted (first :: second :: rest))
    (raw : Bytes) :
    oid ⟨6, ((40 * first + second) :: rest).flatMap arcBytes, raw⟩ =
      .ok (dotted (first :: second :: rest)) := by
  obtain ⟨hfirst, hsecond, hlow, hrest⟩ := harcs
  have hread := @read_arcs ((40 * first + second) :: rest)
    (List.forall_mem_cons.mpr ⟨hlow, hrest⟩) []
  have hsome : ((40 * first + second) :: rest).flatMap arcBytes ≠ [] := by
    rw [List.flatMap_cons]
    exact fun hnil => arcBytes_ne_nil _ (List.append_eq_nil_iff.mp hnil).1
  have harc : min ((40 * first + second) / 40) 2 = first := by omega
  have hleft : 40 * first + second - first * 40 = second := by omega
  have hvalid : ¬((6 : UInt8) ≠ 6 ∨ ((40 * first + second) :: rest).flatMap arcBytes = []) := by
    rintro (hother | hnil)
    · exact hother rfl
    · exact hsome hnil
  unfold oid
  dsimp only
  rw [if_neg hvalid, hread]
  change Except.ok (dotted (min ((40 * first + second) / 40) 2 ::
    (40 * first + second - min ((40 * first + second) / 40) 2 * 40) :: rest)) = _
  rw [harc, hleft]

/-- An object identifier is read back from its encoding. -/
theorem oid_dotted {arcs : List ℕ} (harcs : Dotted arcs) :
    ∃ content, oidDer (dotted arcs) = .ok (der 6 content) ∧
      ∀ raw, oid ⟨6, content, raw⟩ = .ok (dotted arcs) := by
  cases harcs with
  | intro hfirst hsecond hlow hrest =>
      exact ⟨_, oidDer_dotted _ _ _, oid_arcs (.intro hfirst hsecond hlow hrest)⟩

/-! ## Requests -/

/-- `hashlib.sha256(data).digest()`. -/
class Sha256 where
  sha256 : Bytes → Bytes
  sha256_length : ∀ data, (sha256 data).length = 32

export Sha256 (sha256 sha256_length)

/-- `_POLICY`. -/
def policy : String := "1.3.6.1.4.1.57264.2"

/-- `_SHA256`. -/
def sha256Oid : String := "2.16.840.1.101.3.4.2.1"

/-- `_algorithm`. -/
def algorithm (item : Node) (identifier : String) (null : Bool) : Except DerError Unit := do
  let fields ← item.children
  match fields with
  | first :: rest =>
      if item.tag ≠ 48 then .error (.witness "Unapproved algorithm or parameters.")
      else do
        let found ← oid first
        if found ≠ identifier ∨ (rest ≠ [] ∧ ¬(null = true ∧ rest.map Node.raw = [[5, 0]])) then
          .error (.witness "Unapproved algorithm or parameters.")
        else .ok ()
  | [] => .error (.witness "Unapproved algorithm or parameters.")

/-- `_imprint`. -/
def imprint (item : Node) : Except DerError Bytes := do
  let fields ← item.children
  match fields with
  | [method, digest] =>
      if item.tag ≠ 48 ∨ digest.tag ≠ 4 ∨ digest.content.length ≠ 32 then
        .error (.witness "Malformed SHA-256 messageImprint.")
      else do
        algorithm method sha256Oid true
        .ok digest.content
  | _ => .error (.witness "Malformed SHA-256 messageImprint.")

/-- The bytes of a nonce, with a zero byte before a set sign bit. -/
def nonceBytes (nonce : ℤ) : Bytes :=
  let raw := toBytes (byteWidth nonce.toNat) nonce.toNat
  match raw with
  | first :: _ => if 128 ≤ first.toNat then 0 :: raw else raw
  | [] => raw

section
variable [Sha256]

/-- `_request`. -/
def request (binding : Bytes) (nonce : ℤ) : Except DerError Bytes :=
  if nonce ≤ 0 ∨ Nat.size nonce.toNat < 256 then
    .error (.witness "Request nonce requires at least 256 unpredictable bits.")
  else do
    let method ← oidDer sha256Oid
    let imprinted := der 48 (der 48 (method ++ [5, 0]) ++ der 4 (sha256 binding))
    let identifier ← oidDer policy
    .ok (der 48 ([2, 1, 1] ++ imprinted ++ identifier ++ der 2 (nonceBytes nonce) ++ [1, 1, 255]))

end

/-- `_query`. -/
def query (raw : Bytes) : Except DerError (Bytes × ℤ) := do
  let item ← node raw 48
  let fields ← item.children
  match fields with
  | [version, imprinted, identifier, nonce, certificate] => do
      let found ← int version 2
      if found ≠ 1 then .error (.witness "Unsupported exact RFC3161 request profile.")
      else do
        let found ← oid identifier
        if found ≠ policy ∨ certificate.raw ≠ [1, 1, 255] then
          .error (.witness "Unsupported exact RFC3161 request profile.")
        else do
          let value ← int nonce 2
          if value ≤ 0 then .error (.witness "Request nonce must be positive.")
          else do
            let digest ← imprint imprinted
            .ok (digest, value)
  | _ => .error (.witness "Unsupported exact RFC3161 request profile.")

/-! ### Lengths -/

theorem header_length_le {tag : UInt8} {size : ℕ} (hsize : size < 2 ^ 32) :
    (header tag size).length ≤ 6 := by
  unfold header
  split
  · simp
  next hlong =>
    obtain ⟨hlow, hhigh⟩ := byteWidth_small (not_lt.mp hlong) hsize
    rw [List.length_cons, List.length_cons, toBytes_length]
    omega

theorem der_length_le (tag : UInt8) (content : Bytes) (hcontent : content.length < 2 ^ 32) :
    (der tag content).length ≤ 6 + content.length := by
  have hheader := @header_length_le tag _ hcontent
  rw [der_eq, List.length_append]
  omega

theorem lt_der_length (tag : UInt8) {content : Bytes} (hcontent : 2 ^ 32 ≤ content.length) :
    6 + content.length < (der tag content).length := by
  have hwidth : 4 < byteWidth content.length := lt_byteWidth.mpr hcontent
  have hlong : ¬content.length < 128 := by omega
  rw [der_eq, List.length_append]
  unfold header
  rw [if_neg hlong, List.length_cons, List.length_cons, toBytes_length]
  omega

theorem continuation_length_le (value : ℕ) : (continuation value).length ≤ value := by
  induction value using Nat.strongRecOn with
  | ind value ih =>
      by_cases hzero : value = 0
      · subst hzero
        rw [continuation_zero]
        exact le_rfl
      · have hquotient := ih (value / 128) (by omega)
        rw [continuation_of_pos hzero, List.length_cons]
        omega

theorem arcBytes_length_le (value : ℕ) : (arcBytes value).length ≤ value + 1 := by
  have hquotient := continuation_length_le (value / 128)
  unfold arcBytes
  rw [List.length_reverse, List.length_cons]
  omega

theorem arcs_length_le (values : List ℕ) :
    (values.flatMap arcBytes).length ≤ values.sum + values.length := by
  induction values with
  | nil => exact le_rfl
  | cons value rest ih =>
      have hvalue := arcBytes_length_le value
      rw [List.flatMap_cons, List.length_append, List.sum_cons, List.length_cons]
      omega

/-! ### The fields of a request -/

def policyBytes : Bytes := [43, 6, 1, 4, 1, 57264, 2].flatMap arcBytes

def methodBytes : Bytes := [96, 840, 1, 101, 3, 4, 2, 1].flatMap arcBytes

theorem policy_dotted : policy = dotted [1, 3, 6, 1, 4, 1, 57264, 2] := by decide +kernel

theorem sha256Oid_dotted : sha256Oid = dotted [2, 16, 840, 1, 101, 3, 4, 2, 1] := by
  decide +kernel

theorem oidDer_policy : oidDer policy = .ok (der 6 policyBytes) := by
  rw [policy_dotted]
  exact oidDer_dotted 1 3 [6, 1, 4, 1, 57264, 2]

theorem oidDer_sha256Oid : oidDer sha256Oid = .ok (der 6 methodBytes) := by
  rw [sha256Oid_dotted]
  exact oidDer_dotted 2 16 [840, 1, 101, 3, 4, 2, 1]

theorem readable_written {tag : UInt8} {content : Bytes} (htag : tag.toNat % 32 ≠ 31)
    (hcontent : content.length < 2 ^ 32) : Readable (written tag content) :=
  ⟨rfl, htag, hcontent⟩

theorem oid_policy (raw : Bytes) : oid ⟨6, policyBytes, raw⟩ = .ok policy := by
  have harcs : Dotted [1, 3, 6, 1, 4, 1, 57264, 2] :=
    .intro (by decide) (by decide) (by decide) (by decide)
  rw [policy_dotted]
  exact oid_arcs harcs raw

theorem oid_sha256Oid (raw : Bytes) : oid ⟨6, methodBytes, raw⟩ = .ok sha256Oid := by
  have harcs : Dotted [2, 16, 840, 1, 101, 3, 4, 2, 1] :=
    .intro (by decide) (by decide) (by decide) (by decide)
  rw [sha256Oid_dotted]
  exact oid_arcs harcs raw

theorem policyBytes_length : policyBytes.length < 65536 :=
  lt_of_le_of_lt (arcs_length_le _) (by decide)

theorem methodBytes_length : methodBytes.length < 65536 :=
  lt_of_le_of_lt (arcs_length_le _) (by decide)

/-- A whole byte string that is written as one node is read as that node. -/
theorem node_der {tag : UInt8} {content : Bytes} (htag : tag.toNat % 32 ≠ 31)
    (hcontent : content.length < 2 ^ 32) : node (der tag content) tag = .ok (written tag content) := by
  have hread := read_der htag hcontent [] []
  rw [List.append_nil, List.nil_append, List.length_nil, Nat.zero_add] at hread
  unfold node
  rw [hread]
  exact if_neg (by simp)

theorem readLength_error {first : UInt8} {rest : Bytes} {error : DerError}
    (hread : readLength first rest = .error error) : ∃ message, error = .witness message := by
  unfold readLength at hread
  split at hread
  next => cases hread
  next =>
    dsimp only at hread
    split at hread
    next => exact ⟨_, (Except.error.inj hread).symm⟩
    next =>
      split at hread
      next => exact ⟨_, (Except.error.inj hread).symm⟩
      next => cases hread

/-- What is not a node is refused with a message. -/
theorem read_error {raw : Bytes} {offset : ℕ} {error : DerError}
    (hread : read raw offset = .error error) : ∃ message, error = .witness message := by
  unfold read at hread
  split at hread
  next tag first rest hdrop =>
    split at hread
    next => exact ⟨_, (Except.error.inj hread).symm⟩
    next =>
      cases hlength : readLength first rest with
      | error found =>
          rw [hlength] at hread
          obtain rfl := Except.error.inj hread
          exact readLength_error hlength
      | ok result =>
          rw [hlength] at hread
          change (if _ then _ else _) = _ at hread
          split at hread
          next => exact ⟨_, (Except.error.inj hread).symm⟩
          next => cases hread
  next => exact ⟨_, (Except.error.inj hread).symm⟩

/-- A longer content is refused, whatever its bytes are. -/
theorem node_long {tag : UInt8} {content : Bytes} (hcontent : 2 ^ 32 ≤ content.length) :
    ∃ message, node (der tag content) tag = .error (.witness message) := by
  unfold node
  cases hread : read (der tag content) 0 with
  | error error =>
      obtain ⟨message, rfl⟩ := read_error hread
      exact ⟨message, rfl⟩
  | ok result =>
      obtain ⟨hraw, -, hshort, hlast, -⟩ := read_eq_ok hread
      have hsmall := der_length_le result.1.tag _ hshort
      have hlarge := lt_der_length tag hcontent
      rw [hraw] at hlast
      exact ⟨_, if_pos (Or.inl (by omega))⟩

theorem children_written {tag : UInt8} {items : List Node}
    (hitems : ∀ item ∈ items, Readable item) (raw : Bytes) :
    (⟨tag, (items.map Node.raw).flatten, raw⟩ : Node).children = .ok items :=
  childrenFrom_written hitems []

/-! ### Nonces -/

/-- The highest bit of a number with these bytes. -/
theorem high_bit {byte : UInt8} {tail : Bytes} :
    128 ≤ byte.toNat ↔ 8 * tail.length + 7 < Nat.size (fromBytes (byte :: tail)) := by
  have hpower : 2 ^ (8 * tail.length + 7) = 128 * 256 ^ tail.length := by
    rw [pow_add, two_pow_eight_mul, Nat.mul_comm]
    rfl
  have htail := fromBytes_lt tail
  rw [Nat.lt_size, hpower, fromBytes_cons]
  constructor
  · intro hbyte
    exact le_trans (Nat.mul_le_mul_right _ hbyte) (Nat.le_add_right _ _)
  · intro hle
    by_contra hbyte
    have hsmall : (byte.toNat + 1) * 256 ^ tail.length ≤ 128 * 256 ^ tail.length :=
      Nat.mul_le_mul_right _ (by omega)
    rw [Nat.add_mul, Nat.one_mul] at hsmall
    omega

/-- A nonce is written in its shortest form, of 65 bytes at most up to 519 bits. -/
theorem nonceBytes_spec {nonce : ℤ} (hpositive : 0 < nonce) :
    nonceBytes nonce ≠ [] ∧ redundant (nonceBytes nonce) = false ∧
      signed (nonceBytes nonce) = nonce ∧
        ((nonceBytes nonce).length ≤ 65 ↔ Nat.size nonce.toNat ≤ 519) := by
  have hvalue : fromBytes (toBytes (byteWidth nonce.toNat) nonce.toNat) = nonce.toNat :=
    fromBytes_toBytes (byteWidth_le.mp le_rfl)
  have hcast : (nonce.toNat : ℤ) = nonce := Int.toNat_of_nonneg hpositive.le
  obtain ⟨byte, tail, hraw, hbyte⟩ := @toBytes_byteWidth nonce.toNat (by omega)
  rw [hraw] at hvalue
  have hbit := @high_bit byte tail
  have hhigh := Nat.size_le.mpr
    (lt_of_lt_of_eq (fromBytes_lt (byte :: tail)) (two_pow_eight_mul _).symm)
  have hlow : 8 * tail.length < Nat.size (fromBytes (byte :: tail)) := by
    have hwidth := @byteWidth_fromBytes _ tail hbyte
    unfold byteWidth at hwidth
    omega
  rw [hvalue] at hbit hhigh hlow
  rw [List.length_cons] at hhigh
  unfold nonceBytes
  dsimp only
  rw [hraw]
  dsimp only
  split
  next hset =>
    have hlong := hbit.mp hset
    refine ⟨List.cons_ne_nil _ _, ?_, ?_, ?_⟩
    · rw [← Bool.not_eq_true, redundant_cons]
      rintro (⟨-, hsmall⟩ | ⟨hminus, -⟩)
      · omega
      · exact absurd hminus (by decide)
    · rw [signed_of_small (by decide), fromBytes_cons, hvalue]
      simpa using hpositive.le
    · rw [List.length_cons, List.length_cons]
      omega
  next hclear =>
    have hshort := mt hbit.mpr hclear
    refine ⟨List.cons_ne_nil _ _, ?_, ?_, ?_⟩
    · cases tail with
      | nil => rfl
      | cons second rest =>
          rw [← Bool.not_eq_true, redundant_cons]
          rintro (⟨hzero, -⟩ | ⟨rfl, -⟩)
          · exact hbyte hzero
          · exact hclear (by decide)
    · rw [signed_of_small (by omega), hvalue, hcast]
    · rw [List.length_cons]
      omega

/-! ### The request is read back -/

section
variable [Sha256]

/-- The two fields of an imprint, and the five of a request. -/
def imprintFields (binding : Bytes) : List Node :=
  [written 48 (der 6 methodBytes ++ [5, 0]), written 4 (sha256 binding)]

def requestFields (binding : Bytes) (nonce : ℤ) : List Node :=
  [written 2 [1], written 48 ((imprintFields binding).map Node.raw).flatten, written 6 policyBytes,
    written 2 (nonceBytes nonce), written 1 [255]]

theorem request_eq {binding : Bytes} {nonce : ℤ} (hpositive : 0 < nonce)
    (hbits : 256 ≤ Nat.size nonce.toNat) :
    request binding nonce =
      .ok (der 48 ((requestFields binding nonce).map Node.raw).flatten) := by
  have hvalid : ¬(nonce ≤ 0 ∨ Nat.size nonce.toNat < 256) := by omega
  unfold request
  rw [if_neg hvalid, oidDer_sha256Oid, oidDer_policy]
  have hversion : der 2 [1] = [2, 1, 1] := by decide
  have hcertificate : der 1 [255] = [1, 1, 255] := by decide
  change Except.ok _ = _
  simp only [requestFields, imprintFields, written, List.map_cons, List.map_nil,
    List.flatten_cons, List.flatten_nil, List.append_nil, hversion, hcertificate,
    List.append_assoc]

theorem imprint_written (binding raw : Bytes) :
    imprint ⟨48, ((imprintFields binding).map Node.raw).flatten, raw⟩ = .ok (sha256 binding) := by
  have hmethod := methodBytes_length
  have hder := der_length_le 6 methodBytes (by omega)
  have hfields : ∀ item ∈ imprintFields binding, Readable item := by
    refine List.forall_mem_cons.mpr ⟨readable_written (by decide) ?_,
      List.forall_mem_cons.mpr ⟨readable_written (by decide) ?_, by simp⟩⟩
    · rw [List.length_append]
      simp only [List.length_cons, List.length_nil]
      omega
    · rw [sha256_length]
      decide
  have halgorithm : algorithm (written 48 (der 6 methodBytes ++ [5, 0])) sha256Oid true =
      .ok () := by
    have hchildren := @children_written 48 [written 6 methodBytes, written 5 []]
      (List.forall_mem_cons.mpr ⟨readable_written (by decide) (by omega),
        List.forall_mem_cons.mpr ⟨readable_written (by decide) (by decide), by simp⟩⟩)
      (der 48 (der 6 methodBytes ++ [5, 0]))
    have hnull : der 5 [] = [5, 0] := by decide
    simp only [written, List.map_cons, List.map_nil, List.flatten_cons, List.flatten_nil,
      List.append_nil, hnull] at hchildren
    unfold algorithm written
    refine bind_eq_ok.mpr ⟨_, hchildren, ?_⟩
    dsimp only
    rw [if_neg (not_not.mpr rfl)]
    refine bind_eq_ok.mpr ⟨_, oid_sha256Oid _, if_neg ?_⟩
    simp
  unfold imprint
  refine bind_eq_ok.mpr ⟨_, children_written hfields raw, ?_⟩
  have hdigest : ¬((48 : UInt8) ≠ 48 ∨ (4 : UInt8) ≠ 4 ∨ (sha256 binding).length ≠ 32) := by
    rw [sha256_length]
    simp
  dsimp only [imprintFields, written]
  rw [if_neg hdigest]
  exact bind_eq_ok.mpr ⟨_, halgorithm, rfl⟩

omit [Sha256] in
theorem length_le_flatten {items : List Node} {item : Node} (hitem : item ∈ items) :
    item.raw.length ≤ ((items.map Node.raw).flatten).length :=
  (List.sublist_flatten_of_mem (List.mem_map_of_mem hitem)).length_le

/-- A request that fits is read up to its nonce. -/
theorem query_request {binding : Bytes} {nonce : ℤ}
    (hfits : ((requestFields binding nonce).map Node.raw).flatten.length < 2 ^ 32) :
    query (der 48 ((requestFields binding nonce).map Node.raw).flatten) =
      (int (written 2 (nonceBytes nonce)) 2 >>= fun value =>
        if value ≤ 0 then .error (.witness "Request nonce must be positive.")
        else .ok (sha256 binding, value)) := by
  have hwritten : ∀ item ∈ requestFields binding nonce,
      item.raw = der item.tag item.content ∧ item.tag.toNat % 32 ≠ 31 := by
    simp [requestFields, written]
  have hreadable : ∀ item ∈ requestFields binding nonce, Readable item := by
    intro item hitem
    obtain ⟨hraw, htag⟩ := hwritten item hitem
    have hlength := length_le_flatten hitem
    have hder := der_length item.tag item.content
    rw [← hraw] at hder
    exact ⟨hraw, htag, by omega⟩
  have hpolicy : ¬(policy ≠ policy ∨ der 1 [255] ≠ [1, 1, 255]) := by decide
  have himprint := imprint_written binding
    (der 48 ((imprintFields binding).map Node.raw).flatten)
  have hversion : int (written 2 [1]) 2 = .ok 1 := by decide
  have hidentifier : oid (written 6 policyBytes) = .ok policy := oid_policy _
  unfold query
  rw [node_der (by decide) hfits, ok_bind, written, children_written hreadable, ok_bind]
  unfold requestFields
  dsimp only
  rw [hversion, ok_bind, if_neg (not_not.mpr rfl), hidentifier, ok_bind]
  change (if policy ≠ policy ∨ der 1 [255] ≠ [1, 1, 255] then _ else _) = _
  rw [if_neg hpolicy]
  refine congrArg _ (funext fun value => ?_)
  split
  · rfl
  · exact bind_eq_ok.mpr ⟨_, himprint, rfl⟩

theorem imprint_length (binding : Bytes) :
    ((imprintFields binding).map Node.raw).flatten.length < 70000 := by
  have hmethod := methodBytes_length
  have hidentifier := der_length_le 6 methodBytes (by omega)
  have halgorithm : (der 6 methodBytes ++ [5, 0]).length = (der 6 methodBytes).length + 2 :=
    List.length_append
  have hfirst := der_length_le 48 (der 6 methodBytes ++ [5, 0]) (by omega)
  have hdigest := der_length_le 4 (sha256 binding)
    (by rw [sha256_length]; decide)
  rw [sha256_length] at hdigest
  simp only [imprintFields, written, List.map_cons, List.map_nil, List.flatten_cons,
    List.flatten_nil, List.append_nil, @List.length_append _ (der 48 _)]
  omega

theorem request_length {binding : Bytes} {nonce : ℤ} (hnonce : (nonceBytes nonce).length ≤ 65) :
    ((requestFields binding nonce).map Node.raw).flatten.length < 2 ^ 32 := by
  have himprint := imprint_length binding
  have hpolicy := policyBytes_length
  have hversion := der_length_le 2 [1] (by decide)
  have hcertificate := der_length_le 1 [255] (by decide)
  have hidentifier := der_length_le 6 policyBytes (by omega)
  have hinteger := der_length_le 2 (nonceBytes nonce) (by omega)
  have hfields := der_length_le 48
    (((imprintFields binding).map Node.raw).flatten) (by omega)
  simp only [requestFields, written, List.map_cons, List.map_nil, List.flatten_cons,
    List.flatten_nil, List.append_nil, List.length_append]
  rw [List.length_singleton] at hversion hcertificate
  omega

/-- A request is read back when its nonce has 519 bits at most, and refused otherwise. -/
theorem query_request_bits {binding : Bytes} {nonce : ℤ} (hpositive : 0 < nonce)
    (hbits : 256 ≤ Nat.size nonce.toNat) :
    ∃ raw, request binding nonce = .ok raw ∧
      (Nat.size nonce.toNat ≤ 519 → query raw = .ok (sha256 binding, nonce)) ∧
      (519 < Nat.size nonce.toNat → ∃ message, query raw = .error (.witness message)) := by
  obtain ⟨hsome, hshortest, hsigned, hlength⟩ := nonceBytes_spec hpositive
  refine ⟨_, request_eq hpositive hbits, ?_, ?_⟩
  · intro hsmall
    have hint : int (written 2 (nonceBytes nonce)) 2 = .ok nonce :=
      int_eq_ok.mpr ⟨rfl, hlength.mpr hsmall, shortest_iff.mpr ⟨hsome, hshortest⟩, hsigned⟩
    rw [query_request (request_length (hlength.mpr hsmall)), hint]
    exact if_neg (not_le.mpr hpositive)
  · intro hlarge
    by_cases hfits : ((requestFields binding nonce).map Node.raw).flatten.length < 2 ^ 32
    · refine ⟨"Nonminimal or unsupported DER integer.", ?_⟩
      have hlong : 65 < (nonceBytes nonce).length := by
        have hcontra := mt hlength.mp
        omega
      have hint : int (written 2 (nonceBytes nonce)) 2 =
          .error (.witness "Nonminimal or unsupported DER integer.") :=
        if_pos (Or.inr (Or.inr (Or.inl hlong)))
      rw [query_request hfits, hint]
      rfl
    · obtain ⟨message, hnode⟩ := @node_long 48 _ (not_lt.mp hfits)
      refine ⟨message, ?_⟩
      unfold query
      rw [hnode]
      rfl

/-- Reading and writing are inverse to each other: nodes, the children of a node, object
identifiers, integers, and requests up to the nonces that fit. -/
theorem der_bijection :
    (∀ (tag : UInt8) (content after : Bytes), tag.toNat % 32 ≠ 31 → content.length < 2 ^ 32 →
      read (der tag content ++ after) 0 =
        .ok (⟨tag, content, der tag content⟩, (der tag content).length)) ∧
    (∀ raw offset item last, read raw offset = .ok (item, last) →
      item.raw = der item.tag item.content) ∧
    (∀ (item : Node) items, item.children = .ok items →
      (items.map Node.raw).flatten = item.content ∧ 2 * items.length ≤ item.content.length) ∧
    (∀ item text, oid item = .ok text → oidDer text = .ok (der item.tag item.content)) ∧
    (∀ arcs, Dotted arcs → ∃ content, oidDer (dotted arcs) = .ok (der 6 content) ∧
      ∀ raw, oid ⟨6, content, raw⟩ = .ok (dotted arcs)) ∧
    (∀ item tag value, int item tag = .ok value ↔ item.tag = tag ∧ item.content.length ≤ 65 ∧
      Shortest item.content ∧ signed item.content = value) ∧
    (∀ (binding : Bytes) (nonce : ℤ), 0 < nonce → 256 ≤ Nat.size nonce.toNat →
      ∃ raw, request binding nonce = .ok raw ∧
        (Nat.size nonce.toNat ≤ 519 → query raw = .ok (sha256 binding, nonce)) ∧
        (519 < Nat.size nonce.toNat →
          ∃ message, query raw = .error (.witness message))) := by
  refine ⟨?_, ?_, ?_, ?_, ?_, ?_, ?_⟩
  · intro tag content after htag hcontent
    have hread := read_der htag hcontent [] after
    rwa [List.nil_append, List.length_nil, Nat.zero_add] at hread
  · intro raw offset item last hread
    exact (read_eq_ok hread).1
  · intro item items hitems
    obtain ⟨hflatten, hcount, -⟩ := childrenFrom_eq_ok hitems (Nat.zero_le _)
    rw [Nat.zero_add] at hcount
    exact ⟨hflatten, hcount⟩
  · intro item text hoid
    obtain ⟨htag, first, second, rest, rfl, hcontent⟩ := oid_eq_ok hoid
    rw [oidDer_dotted, htag, hcontent]
  · intro arcs harcs
    exact oid_dotted harcs
  · intro item tag value
    exact int_eq_ok
  · intro binding nonce hpositive hbits
    exact query_request_bits hpositive hbits

end

end MatchVet.Causal.Der
