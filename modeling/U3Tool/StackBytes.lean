import U3Tool.UsbCommands

/-!
# Bytes of the stack in the commands of `u3_partition`

Over USB, a read that returns fewer bytes than were asked for is no failure, and neither
`rounded_size` nor `device_properties` is initialized. What `u3_partition` sends can therefore
depend on what was on the stack before.

Runs with the same replies send the same for all contents of the stack exactly when the replies
decide everything that is sent (`Decided`): the header of the property page fixes the length that is
asked for, and where the checks can be passed at all, the sizes that enter the rounding and the
record are complete (`u3Partition_sends_same_iff`). Whether the checks can be passed is seen on one
stack, on which they are easiest to pass (`lucky`).
-/

set_option autoImplicit false
set_option relaxedAutoImplicit false

namespace U3Tool

open Interaction Bytes Program

variable {answers : Answers} {n : ℕ}

/-! ### What `u3_partition` sends -/

/-- The checks on the property page. -/
def PassesChecks (cdSize : UInt32) (page : Property03) : Prop :=
  hdrLength page = 39 ∧ cdSize ≤ page.deviceSize

instance (cdSize : UInt32) (page : Property03) : Decidable (PassesChecks cdSize page) :=
  inferInstanceAs (Decidable (_ ∧ _))

/-- Sent from the n-th request on once the record is filled in. -/
def recordSends (answers : Answers) (n : ℕ) (record : PartInfo) : List (List UInt8) :=
  cbw (recordRequest record) :: if answers.write n = 31 then [record.encode] else []

/-- Sent from the n-th request on once the property page is read. -/
def roundingSends (answers : Answers) (n : ℕ) (cdSize : UInt32) (page : Property03)
    (roundDown : Buffer 4) : List (List UInt8) :=
  if PassesChecks cdSize page then
    cbw (partitionRoundRequest .down (page.deviceSize - cdSize)) ::
      match answers.received n 4 with
      | some data =>
        recordSends answers (n + 3) (partitionRecord ((roundDown.store 0 data).word32 0) cdSize)
      | none => []
  else []

/-- Sent from the n-th request on once the header of the property page is read. -/
def pageSends (answers : Answers) (n : ℕ) (cdSize : UInt32) (buffer : Property03)
    (roundDown : Buffer 4) : List (List UInt8) :=
  if hdrLength buffer < propertyHeaderSize then []
  else cbw (propertyRequest 3 (pageLength buffer)) ::
    match answers.received n (pageLength buffer).toNat with
    | some data => roundingSends answers (n + 3) cdSize (buffer.store 0 data) roundDown
    | none => []

/-- Sent from the n-th request on once the size of the CD partition is rounded. -/
def propertySends (answers : Answers) (n : ℕ) (cdSize : UInt32) (page : Property03)
    (roundDown : Buffer 4) : List (List UInt8) :=
  cbw (propertyRequest 3 propertyHeaderSize) ::
    match answers.received n 6 with
    | some header => pageSends answers (n + 3) cdSize (page.store 0 header) roundDown
    | none => []

/-- The end of `u3_partition` sends what `roundingSends` says. -/
theorem sentBy_roundDataSize_bind (answers : Answers) (n : ℕ) (cdSize : UInt32)
    (page : Property03) (roundDown : Buffer 4) :
    sentBy answers n (roundDataSize cdSize page roundDown >>= fun dataSize ↦
      deviceCommand partitionCommand .toDev 17 (partitionRecord dataSize cdSize).encode >>=
        fun _ ↦ .done ()) = roundingSends answers n cdSize page roundDown := by
  rw [sentBy_bind, roundingSends]
  by_cases hpasses : PassesChecks cdSize page
  · obtain ⟨hsent, hreturned⟩ := runFrom_u3PartitionSectorRound answers n .down
      (page.deviceSize - cdSize) roundDown
    rw [if_pos hpasses, roundDataSize, if_neg (not_not.mpr hpasses.1),
      if_neg (UInt32.not_lt.mpr hpasses.2), sentBy_mapError, returned_mapError, hsent, hreturned]
    cases answers.received n 4 with
    | none => rfl
    | some data => exact congrArg (_ :: ·) (sentBy_record answers (n + 3) _)
  · rw [if_neg hpasses, roundDataSize]
    split_ifs with hlength hfits
    · rfl
    · rfl
    · exact absurd ⟨not_not.mp hlength, UInt32.not_lt.mp hfits⟩ hpasses

/-- `u3_partition` after the rounding sends what `propertySends` says. -/
theorem sentBy_readProperty03_bind (answers : Answers) (n : ℕ) (cdSize : UInt32)
    (stack : PartitionStack) :
    sentBy answers n (readProperty03 stack.deviceProperties >>= fun page ↦
      roundDataSize cdSize page stack.roundDown >>= fun dataSize ↦
        deviceCommand partitionCommand .toDev 17 (partitionRecord dataSize cdSize).encode >>=
          fun _ ↦ .done ()) =
      propertySends answers n cdSize stack.deviceProperties stack.roundDown := by
  obtain ⟨hsent, hreturned⟩ := runFrom_readProperty03 answers n stack.deviceProperties
  rw [sentBy_bind, hsent, hreturned, propertySends]
  cases answers.received n 6 with
  | none => rfl
  | some header =>
    simp only [pageSends]
    split_ifs with hlength
    · rfl
    · cases answers.received (n + 3) (pageLength (stack.deviceProperties.store 0 header)).toNat with
      | none => rfl
      | some data =>
        exact congrArg (_ :: _ :: ·) (sentBy_roundDataSize_bind answers (n + 6) cdSize _ _)

/-- All that `u3_partition` sends. -/
theorem sentBy_u3Partition (answers : Answers) (cdSize : UInt32) (stack : PartitionStack) :
    sentBy answers 0 (u3Partition cdSize stack) =
      if cdSize ≠ 0 then
        cbw (partitionRoundRequest .up cdSize) ::
          match answers.received 0 4 with
          | some data => propertySends answers 3 ((stack.roundUp.store 0 data).word32 0)
              stack.deviceProperties stack.roundDown
          | none => []
      else propertySends answers 0 0 stack.deviceProperties stack.roundDown := by
  rw [u3Partition, sentBy_bind, roundCdSize]
  split_ifs with hzero
  · obtain ⟨hsent, hreturned⟩ := runFrom_u3PartitionSectorRound answers 0 .up cdSize stack.roundUp
    rw [sentBy_mapError, returned_mapError, hsent, hreturned]
    cases answers.received 0 4 with
    | none => rfl
    | some data => exact congrArg (_ :: ·) (sentBy_readProperty03_bind answers 3 _ stack)
  · rw [not_not.mp hzero]
    exact sentBy_readProperty03_bind answers 0 0 stack

/-! ### When the replies decide what is sent -/

/-- The contents of the stack on which the checks are easiest to pass: no byte of the sizes and of
the length field is set, every byte of the device size is. -/
def lucky : PartitionStack :=
  ⟨.fill 4 0, ⟨List.replicate 6 0 ++ List.replicate 33 0xff, rfl⟩, .fill 4 0⟩

/-- The header read fixes the length of the page read: the length field is complete, or its low byte
alone is no less than the size of the page. -/
def HeaderDecides (header : List UInt8) : Prop :=
  header.length = 6 ∨ (header.length = 5 ∧ 39 ≤ header.getD 4 0)

/-- The replies decide what is sent from the n-th request on, when the rounded size is at least
`leastSize` and, if `complete`, equal to it. -/
def PropertyDecides (answers : Answers) (n : ℕ) (complete : Prop) (leastSize : UInt32) : Prop :=
  ∀ header, answers.received n 6 = some header →
    HeaderDecides header ∧
      ∀ page, ¬ hdrLength (lucky.deviceProperties.store 0 header) < propertyHeaderSize →
        answers.received (n + 3) (pageLength (lucky.deviceProperties.store 0 header)).toNat =
          some page →
        PassesChecks leastSize ((lucky.deviceProperties.store 0 header).store 0 page) →
          complete ∧ page.length = 39 ∧
            ∀ roundDown, answers.received (n + 6) 4 = some roundDown →
              roundDown.length = 4 ∨ answers.write (n + 9) ≠ 31

/-- The replies decide everything `u3_partition` sends. -/
def Decided (answers : Answers) (cdSize : UInt32) : Prop :=
  if cdSize = 0 then PropertyDecides answers 0 True 0
  else ∀ roundUp, answers.received 0 4 = some roundUp →
    PropertyDecides answers 3 (roundUp.length = 4) ((lucky.roundUp.store 0 roundUp).word32 0)

theorem byte_lucky (index : ℕ) (hindex : index < 39) :
    lucky.deviceProperties.byte index = if index < 6 then 0 else 0xff := by
  interval_cases index <;> rfl

/-! #### Rounded sizes -/

/-- A complete reply leaves nothing of the local variable. -/
theorem word32_store_of_length {data : List UInt8} (hlength : data.length = 4)
    (first second : Buffer 4) :
    (first.store 0 data).word32 0 = (second.store 0 data).word32 0 := by
  have hbytes : first.store 0 data = second.store 0 data := by
    apply Buffer.ext
    rw [Buffer.bytes_store_of_le hlength.ge, Buffer.bytes_store_of_le hlength.ge]
  rw [hbytes]

/-- An incomplete reply leaves at least the highest byte of the local variable. -/
theorem word32_store_ne {data : List UInt8} (hlength : data.length < 4) :
    ((Buffer.fill 4 1).store 0 data).word32 0 ≠ ((Buffer.fill 4 0).store 0 data).word32 0 := by
  intro heq
  have hvalue := congrArg UInt32.toNat heq
  have hone : ((Buffer.fill 4 1).store 0 data).byte 3 = 1 := by
    rw [Buffer.byte_store_zero hlength.le, if_neg (by omega)]
    rfl
  have hzero : ((Buffer.fill 4 0).store 0 data).byte 3 = 0 := by
    rw [Buffer.byte_store_zero hlength.le, if_neg (by omega)]
    rfl
  rw [Buffer.toNat_word32 (by norm_num), Buffer.toNat_word32 (by norm_num), hone, hzero] at hvalue
  have hlow (index : ℕ) := (((Buffer.fill 4 0).store 0 data).byte index).toNat_lt
  have hlow0 := hlow 0
  have hlow1 := hlow 1
  have hlow2 := hlow 2
  simp only [UInt8.reduceToNat, Nat.zero_add] at hvalue
  omega

/-- The least value a rounded size can take is the one on a zeroed variable. -/
theorem word32_store_zero_le {data : List UInt8} (hlength : data.length ≤ 4)
    (roundedSize : Buffer 4) :
    ((Buffer.fill 4 0).store 0 data).word32 0 ≤ (roundedSize.store 0 data).word32 0 := by
  refine Buffer.word32_le_word32 (by norm_num) fun index _ hindex ↦ ?_
  rw [Buffer.byte_store_zero hlength, Buffer.byte_store_zero hlength]
  split_ifs
  · exact UInt8.le_refl _
  · have hzero : (Buffer.fill 4 0).byte index = 0 := by interval_cases index <;> rfl
    rw [hzero]
    exact UInt8.zero_le

/-! #### The header -/

theorem toNat_pageLength (buffer : Property03) :
    (pageLength buffer).toNat = min (hdrLength buffer).toNat 39 := by
  have hsize : (UInt16.ofNat 39).toNat = 39 := rfl
  unfold pageLength
  split_ifs with hlength
  · rw [gt_iff_lt, UInt16.lt_iff_toNat_lt, hsize] at hlength
    omega
  · rw [gt_iff_lt, UInt16.lt_iff_toNat_lt, hsize] at hlength
    omega

theorem hdrLength_lt_iff (buffer : Property03) :
    hdrLength buffer < propertyHeaderSize ↔ (hdrLength buffer).toNat < 6 :=
  UInt16.lt_iff_toNat_lt

/-- The length field after the header read. -/
theorem toNat_hdrLength_store {header : List UInt8} (hlength : header.length ≤ 6)
    (page : Property03) :
    (hdrLength (page.store 0 header)).toNat =
      (if 4 < header.length then header.getD 4 0 else page.byte 4).toNat +
        256 * (if 5 < header.length then header.getD 5 0 else page.byte 5).toNat := by
  rw [hdrLength, Buffer.toNat_word16 (by norm_num), Buffer.byte_store_zero (by omega),
    Buffer.byte_store_zero (by omega)]

/-- A header that decides fixes whether and how much of the page is read. -/
theorem HeaderDecides.pageLength_eq {header : List UInt8} (hheader : HeaderDecides header)
    (first second : Property03) :
    (hdrLength (first.store 0 header) < propertyHeaderSize ↔
        hdrLength (second.store 0 header) < propertyHeaderSize) ∧
      pageLength (first.store 0 header) = pageLength (second.store 0 header) := by
  rw [hdrLength_lt_iff, hdrLength_lt_iff, ← UInt16.toNat_inj, toNat_pageLength, toNat_pageLength]
  rcases hheader with hlength | ⟨hlength, hlow⟩
  · rw [toNat_hdrLength_store hlength.le, toNat_hdrLength_store hlength.le]
    simp only [hlength, Nat.lt_add_one, if_true, (by norm_num : 4 < 6), and_self]
  · have hatLeast (page : Property03) : 39 ≤ (hdrLength (page.store 0 header)).toNat := by
      rw [toNat_hdrLength_store (by omega), if_pos (by omega)]
      have hbyte : 39 ≤ (header.getD 4 0).toNat := UInt8.le_iff_toNat_le.mp hlow
      omega
    have hfirst := hatLeast first
    have hsecond := hatLeast second
    omega

/-- A header that does not decide leaves two lengths open: one below the size of the page on a
zeroed structure, and one not below it on a structure of 0xff bytes. -/
theorem not_headerDecides {header : List UInt8} (hlength : header.length ≤ 6)
    (hheader : ¬ HeaderDecides header) :
    (hdrLength ((Buffer.fill 39 0).store 0 header)).toNat < 39 ∧
      39 ≤ (hdrLength ((Buffer.fill 39 0xff).store 0 header)).toNat := by
  have hsix : header.length ≠ 6 := fun h ↦ hheader (Or.inl h)
  have hfield (value : UInt8) : (hdrLength ((Buffer.fill 39 value).store 0 header)).toNat =
      (if 4 < header.length then header.getD 4 0 else value).toNat + 256 * value.toNat := by
    rw [toNat_hdrLength_store hlength, if_neg (show ¬ 5 < header.length by omega)]
    rfl
  rw [hfield, hfield]
  by_cases hfive : 4 < header.length
  · have hlow : (header.getD 4 0).toNat < 39 := by
      by_contra hcontra
      exact hheader (Or.inr ⟨by omega, UInt8.le_iff_toNat_le.mpr (not_lt.mp hcontra)⟩)
    rw [if_pos hfive]
    exact ⟨hlow, le_add_left (by decide)⟩
  · rw [if_neg hfive, if_neg hfive]
    exact ⟨by decide, by decide⟩

/-! #### The page -/

/-- A complete page leaves nothing of the structure. -/
theorem store_page_of_length {page : List UInt8} (hlength : page.length = 39)
    (first second : Property03) : first.store 0 page = second.store 0 page := by
  apply Buffer.ext
  rw [Buffer.bytes_store_of_le hlength.ge, Buffer.bytes_store_of_le hlength.ge]

/-- When the checks pass on some contents of the stack, they pass on the lucky one. -/
theorem passesChecks_lucky {header page : List UInt8} {leastSize cdSize : UInt32}
    (hheader : HeaderDecides header) (hpage : page.length ≤ 39) (hleast : leastSize ≤ cdSize)
    {deviceProperties : Property03}
    (hpasses : PassesChecks cdSize ((deviceProperties.store 0 header).store 0 page)) :
    PassesChecks leastSize ((lucky.deviceProperties.store 0 header).store 0 page) := by
  have hlength : 4 < header.length ∧ header.length ≤ 6 := by
    rcases hheader with hlength | ⟨hlength, -⟩ <;> omega
  have hbyte (buffer : Property03) (index : ℕ) :
      ((buffer.store 0 header).store 0 page).byte index =
        if index < page.length then page.getD index 0
        else if index < header.length then header.getD index 0 else buffer.byte index := by
    rw [Buffer.byte_store_zero hpage, Buffer.byte_store_zero (by omega)]
  obtain ⟨hfield, hfits⟩ := hpasses
  refine ⟨?_, UInt32.le_trans hleast (UInt32.le_trans hfits ?_)⟩
  · -- the high byte is zero on the given contents, and no greater on the lucky one
    have hnumber := congrArg UInt16.toNat hfield
    rw [hdrLength, Buffer.toNat_word16 (by norm_num)] at hnumber
    rw [← UInt16.toNat_inj, hdrLength, Buffer.toNat_word16 (by norm_num)]
    have hlow : ((lucky.deviceProperties.store 0 header).store 0 page).byte 4 =
        ((deviceProperties.store 0 header).store 0 page).byte 4 := by
      rw [hbyte, hbyte, if_pos hlength.1, if_pos hlength.1]
    have hhigh : (((lucky.deviceProperties.store 0 header).store 0 page).byte 5).toNat ≤
        (((deviceProperties.store 0 header).store 0 page).byte 5).toNat := by
      rw [hbyte, hbyte, byte_lucky 5 (by norm_num), if_pos (show 5 < 6 by norm_num)]
      split_ifs
      · exact le_rfl
      · exact le_rfl
      · exact Nat.zero_le _
    have hvalue : (39 : UInt16).toNat = 39 := rfl
    simp only [Nat.reduceAdd, hlow] at hnumber ⊢
    omega
  · refine Buffer.word32_le_word32 (by norm_num) fun index hlow hhigh ↦ ?_
    rw [hbyte, hbyte, byte_lucky _ (by omega), if_neg (show ¬ index < 6 by omega)]
    split_ifs
    · exact UInt8.le_refl _
    · exact UInt8.le_refl _
    · exact UInt8.le_iff_toNat_le.mpr (Nat.lt_succ_iff.mp (UInt8.toNat_lt _))

/-! #### Deciding replies -/

/-- The command block of a repartition does not depend on the record. -/
theorem cbw_recordRequest (first second : PartInfo) :
    cbw (recordRequest first) = cbw (recordRequest second) := rfl

/-- A complete rounded size, or a block that is not written, leaves nothing of the stack in the
record. -/
theorem roundingSends_congr {cdSize : UInt32} {page : Property03}
    (hdecides : ∀ roundDown, answers.received n 4 = some roundDown →
      roundDown.length = 4 ∨ answers.write (n + 3) ≠ 31) (first second : Buffer 4) :
    roundingSends answers n cdSize page first = roundingSends answers n cdSize page second := by
  unfold roundingSends
  split_ifs with hpasses
  · refine congrArg (_ :: ·) ?_
    cases hreceived : answers.received n 4 with
    | none => rfl
    | some data =>
      dsimp only
      rcases hdecides data hreceived with hlength | hwrite
      · rw [word32_store_of_length hlength first second]
      · simp only [recordSends, if_neg hwrite]
        rw [cbw_recordRequest]
  · rfl

/-- Where the replies decide, the stack does not matter. -/
theorem propertySends_eq_lucky {complete : Prop} {leastSize cdSize : UInt32}
    (hdecides : PropertyDecides answers n complete leastSize) (hleast : leastSize ≤ cdSize)
    (hcomplete : complete → cdSize = leastSize) (page : Property03) (roundDown : Buffer 4) :
    propertySends answers n cdSize page roundDown =
      propertySends answers n leastSize lucky.deviceProperties lucky.roundDown := by
  unfold propertySends
  cases hheader : answers.received n 6 with
  | none => rfl
  | some header =>
    obtain ⟨hheaderDecides, hpage⟩ := hdecides header hheader
    obtain ⟨hstops, hlength⟩ := hheaderDecides.pageLength_eq page lucky.deviceProperties
    refine congrArg (_ :: ·) ?_
    simp only [pageSends, hstops, hlength]
    split_ifs with hshort
    · rfl
    · refine congrArg (_ :: ·) ?_
      cases hreceived : answers.received (n + 3)
          (pageLength (lucky.deviceProperties.store 0 header)).toNat with
      | none => rfl
      | some body =>
        have hbody : body.length ≤ 39 := by
          have hle := Answers.length_le_of_received hreceived
          rw [toNat_pageLength] at hle
          omega
        by_cases hlucky : PassesChecks leastSize
            ((lucky.deviceProperties.store 0 header).store 0 body)
        · obtain ⟨hsize, hfull, hrecord⟩ := hpage body hshort hreceived hlucky
          dsimp only
          rw [hcomplete hsize, store_page_of_length hfull (page.store 0 header)
            (lucky.deviceProperties.store 0 header)]
          exact roundingSends_congr hrecord _ _
        · have hfails : ¬ PassesChecks cdSize ((page.store 0 header).store 0 body) :=
            fun hpasses ↦ hlucky (passesChecks_lucky hheaderDecides hbody hleast hpasses)
          simp only [roundingSends, if_neg hlucky, if_neg hfails]

/-! #### Replies that decide nothing -/

/-- The command block is part of what is sent. -/
theorem cmd_of_cbw {first second : CmdRequest} (heq : cbw first = cbw second) :
    first.cmd = second.cmd := by
  have hblock (request : CmdRequest) : ((cbw request).drop 15).take 12 = request.cmd.bytes := by
    rw [cbw, ← List.append_assoc, ← List.append_assoc, ← List.append_assoc,
      List.drop_left' (by simp [ascii]), List.take_left' request.cmd.length_bytes]
  apply Buffer.ext
  rw [← hblock, ← hblock, heq]

/-- The length of a property read is part of what is sent. -/
theorem length_of_cbw_propertyRequest {first second : UInt16}
    (heq : cbw (propertyRequest 3 first) = cbw (propertyRequest 3 second)) : first = second := by
  have hslice := congrArg (fun cmd : Cdb ↦ cmd.slice 5 2) (cmd_of_cbw heq)
  have hlength (length : UInt16) : (propertyCommand 3 length).slice 5 2 = leBytes 2 length.toNat :=
    rfl
  simp only [propertyRequest, hlength] at hslice
  rw [← leUInt16_leBytes first, hslice, leUInt16_leBytes]

/-- The size to round is part of what is sent. -/
theorem size_of_cbw_roundRequest {first second : UInt32}
    (heq : cbw (partitionRoundRequest .down first) = cbw (partitionRoundRequest .down second)) :
    first = second := by
  have hslice := congrArg (fun cmd : Cdb ↦ cmd.slice 4 4) (cmd_of_cbw heq)
  simp only [partitionRoundRequest, slice_roundCommand] at hslice
  exact leBytes_injective hslice

/-- The data size is part of the record. -/
theorem dataSize_of_encode {first second : PartInfo} (heq : first.encode = second.encode) :
    first.dataSize = second.dataSize := by
  have hfield (info : PartInfo) : (info.encode.drop 5).take 4 = leBytes 4 info.dataSize.toNat := by
    have hencode : info.encode = (info.partitionCount :: leBytes 4 info.unknown1.toNat) ++
        (leBytes 4 info.dataSize.toNat ++
          (leBytes 4 info.unknown2.toNat ++ leBytes 4 info.cdSize.toNat)) := by
      simp [PartInfo.encode]
    rw [hencode, List.drop_left' (by simp), List.take_left' (by simp)]
  apply leBytes_injective
  rw [← hfield, ← hfield, heq]

/-- Where the checks pass, other contents that lead to the same leave the same size to round. -/
theorem size_of_roundingSends {cdSize cdSize' : UInt32} {page page' : Property03}
    {roundDown roundDown' : Buffer 4} (hpasses : PassesChecks cdSize page)
    (hsame : roundingSends answers n cdSize' page' roundDown' =
      roundingSends answers n cdSize page roundDown) :
    page'.deviceSize - cdSize' = page.deviceSize - cdSize := by
  rw [roundingSends, roundingSends, if_pos hpasses] at hsame
  split_ifs at hsame
  exact size_of_cbw_roundRequest (List.cons.inj hsame).1

/-- A header that does not decide leads to different lengths of the page read, or to none. -/
theorem headerDecides_of_same {cdSize : UInt32} {roundDown : Buffer 4} {header : List UInt8}
    (hheader : answers.received n 6 = some header)
    (hsame : propertySends answers n cdSize (.fill 39 0) roundDown =
      propertySends answers n cdSize (.fill 39 0xff) roundDown) : HeaderDecides header := by
  by_contra hcontra
  obtain ⟨hlow, hhigh⟩ := not_headerDecides (Answers.length_le_of_received hheader) hcontra
  have hlong : ¬ hdrLength ((Buffer.fill 39 0xff).store 0 header) < propertyHeaderSize := by
    rw [hdrLength_lt_iff]
    omega
  have hrest := (List.cons.inj hsame).2
  simp only [hheader, pageSends, if_neg hlong] at hrest
  split_ifs at hrest
  have hlength := congrArg UInt16.toNat (length_of_cbw_propertyRequest (List.cons.inj hrest).1)
  rw [toNat_pageLength, toNat_pageLength] at hlength
  omega

/-- What is sent when header and page are read. -/
theorem propertySends_of_received {header body : List UInt8} (hheader : HeaderDecides header)
    (hreceived : answers.received n 6 = some header)
    (hlong : ¬ hdrLength (lucky.deviceProperties.store 0 header) < propertyHeaderSize)
    (hbody : answers.received (n + 3)
      (pageLength (lucky.deviceProperties.store 0 header)).toNat = some body)
    (cdSize : UInt32) (page : Property03) (roundDown : Buffer 4) :
    propertySends answers n cdSize page roundDown =
      cbw (propertyRequest 3 propertyHeaderSize) ::
        cbw (propertyRequest 3 (pageLength (lucky.deviceProperties.store 0 header))) ::
          roundingSends answers (n + 6) cdSize ((page.store 0 header).store 0 body) roundDown := by
  obtain ⟨hstops, hlength⟩ := hheader.pageLength_eq page lucky.deviceProperties
  simp only [propertySends, hreceived, pageSends, hstops, hlength, if_neg hlong, hbody]

/-- The lucky structure with smaller bytes after the header. -/
def lessLucky : Property03 := ⟨List.replicate 6 0 ++ List.replicate 33 0xfe, rfl⟩

/-- A short page leaves the device size open. -/
theorem deviceSize_ne_of_short {header body : List UInt8} (hheader : header.length ≤ 6)
    (hshort : body.length < 39) :
    Property03.deviceSize ((lessLucky.store 0 header).store 0 body) ≠
      Property03.deviceSize ((lucky.deviceProperties.store 0 header).store 0 body) := by
  intro heq
  have hvalue := congrArg UInt32.toNat heq
  have hbyte (buffer : Property03) : ((buffer.store 0 header).store 0 body).byte 38 =
      buffer.byte 38 := by
    rw [Buffer.byte_store_zero hshort.le, if_neg (by omega), Buffer.byte_store_zero (by omega),
      if_neg (by omega)]
  have hless : ((lessLucky.store 0 header).store 0 body).byte 38 = 0xfe := hbyte lessLucky
  have hmost : ((lucky.deviceProperties.store 0 header).store 0 body).byte 38 = 0xff :=
    hbyte lucky.deviceProperties
  have hbound (index : ℕ) := (((lessLucky.store 0 header).store 0 body).byte index).toNat_lt
  have hbound35 := hbound 35
  have hbound36 := hbound 36
  have hbound37 := hbound 37
  rw [Property03.deviceSize, Property03.deviceSize, Buffer.toNat_word32 (by norm_num),
    Buffer.toNat_word32 (by norm_num), hless, hmost] at hvalue
  simp only [UInt8.reduceToNat, Nat.reduceAdd] at hvalue
  omega

/-- Where every stack leads to the same, the replies decide. -/
theorem propertyDecides_of_same {complete : Prop} {leastSize : UInt32}
    (hsame : ∀ page roundDown, propertySends answers n leastSize page roundDown =
      propertySends answers n leastSize lucky.deviceProperties lucky.roundDown)
    (hsize : ¬ complete → ∃ other ≠ leastSize,
      propertySends answers n other lucky.deviceProperties lucky.roundDown =
        propertySends answers n leastSize lucky.deviceProperties lucky.roundDown) :
    PropertyDecides answers n complete leastSize := by
  intro header hreceived
  have hheader : HeaderDecides header :=
    headerDecides_of_same hreceived ((hsame _ lucky.roundDown).trans (hsame _ _).symm)
  refine ⟨hheader, fun body hlong hbody hpasses ↦ ?_⟩
  have hexpand := propertySends_of_received hheader hreceived hlong hbody
  have hrounding {cdSize : UInt32} {page : Property03} {roundDown : Buffer 4}
      (heq : propertySends answers n cdSize page roundDown =
        propertySends answers n leastSize lucky.deviceProperties lucky.roundDown) :
      roundingSends answers (n + 6) cdSize ((page.store 0 header).store 0 body) roundDown =
        roundingSends answers (n + 6) leastSize
          ((lucky.deviceProperties.store 0 header).store 0 body) lucky.roundDown := by
    rw [hexpand, hexpand] at heq
    exact (List.cons.inj (List.cons.inj heq).2).2
  refine ⟨?_, ?_, fun data hdata ↦ ?_⟩
  · by_contra hcontra
    obtain ⟨other, hother, heq⟩ := hsize hcontra
    have hdifference := size_of_roundingSends hpasses (hrounding heq)
    exact hother ((UInt32.sub_right_inj _).mp hdifference)
  · by_contra hcontra
    have hbounds : header.length ≤ 6 ∧ body.length ≤ 39 := by
      have hpage := Answers.length_le_of_received hbody
      rw [toNat_pageLength] at hpage
      exact ⟨Answers.length_le_of_received hreceived, by omega⟩
    have hdifference := size_of_roundingSends hpasses (hrounding (hsame lessLucky lucky.roundDown))
    exact deviceSize_ne_of_short hbounds.1 (by omega) ((UInt32.sub_left_inj _).mp hdifference)
  · by_contra hcontra
    have hdata4 := Answers.length_le_of_received hdata
    obtain ⟨hshort, hwrite⟩ : data.length ≠ 4 ∧ answers.write (n + 9) = 31 := by
      rwa [not_or, not_not] at hcontra
    have hrest := hrounding (hsame lucky.deviceProperties (.fill 4 1))
    simp only [roundingSends, if_pos hpasses, hdata, recordSends, hwrite, if_true] at hrest
    have hrecord := (List.cons.inj (List.cons.inj (List.cons.inj hrest).2).2).1
    have hsizes := dataSize_of_encode hrecord
    rw [partitionRecord_dataSize, partitionRecord_dataSize] at hsizes
    exact word32_store_ne (by omega) hsizes

/-- Two runs of `u3_partition` with the same `cd_size` and the same replies send the same commands
and payloads, whatever was on the stack, exactly when the replies decide what is sent. -/
theorem u3Partition_sends_same_iff (answers : Answers) (cdSize : UInt32) :
    (∀ first second : PartitionStack, sentBy answers 0 (u3Partition cdSize first) =
      sentBy answers 0 (u3Partition cdSize second)) ↔ Decided answers cdSize := by
  simp only [sentBy_u3Partition]
  by_cases hzero : cdSize = 0
  · rw [Decided, if_pos hzero]
    simp only [hzero, ne_eq, not_true, if_false]
    constructor
    · intro hsame
      exact propertyDecides_of_same (fun page roundDown ↦ hsame ⟨.fill 4 0, page, roundDown⟩ lucky)
        fun hcontra ↦ absurd trivial hcontra
    · intro hdecides first second
      have hlucky (stack : PartitionStack) := propertySends_eq_lucky hdecides (UInt32.le_refl 0)
        (fun _ ↦ rfl) stack.deviceProperties stack.roundDown
      exact (hlucky first).trans (hlucky second).symm
  · rw [Decided, if_neg hzero]
    simp only [ne_eq, hzero, not_false_eq_true, if_true, List.cons.injEq, true_and]
    constructor
    · intro hsame roundUp hroundUp
      simp only [hroundUp] at hsame
      refine propertyDecides_of_same
        (fun page roundDown ↦ hsame ⟨.fill 4 0, page, roundDown⟩ lucky) fun hcontra ↦ ?_
      have hlength := Answers.length_le_of_received hroundUp
      exact ⟨_, word32_store_ne (by omega),
        hsame ⟨.fill 4 1, lucky.deviceProperties, lucky.roundDown⟩ lucky⟩
    · intro hdecides first second
      cases hroundUp : answers.received 0 4 with
      | none => rfl
      | some roundUp =>
        have hlength := Answers.length_le_of_received hroundUp
        have hlucky (stack : PartitionStack) := propertySends_eq_lucky (hdecides roundUp hroundUp)
          (word32_store_zero_le hlength stack.roundUp)
          (fun hcomplete ↦ word32_store_of_length hcomplete _ _)
          stack.deviceProperties stack.roundDown
        exact (hlucky first).trans (hlucky second).symm

/-- A stick of 4096 sectors that completes every command with status zero and answers the rounding
of the data partition with no data. -/
def silentRounding : Answers where
  write := fun n ↦ if n = 10 then 17 else 31
  read := fun n ↦ some <|
    if n = 1 then [3, 0, 0, 0, 39, 0]
    else if n = 4 then [3, 0, 0, 0, 39, 0] ++ List.replicate 29 0 ++ [0, 16, 0, 0]
    else if n = 7 then []
    else ascii "USBS" ++ [1, 0, 0, 0, 0, 0, 0, 0, 0]

/-- Against this stick the size of the data partition in the record is whatever was on the stack. -/
theorem u3Partition_sends_stack :
    ¬ ∀ (answers : Answers) (cdSize : UInt32) (first second : PartitionStack),
      sentBy answers 0 (u3Partition cdSize first) =
        sentBy answers 0 (u3Partition cdSize second) := by
  intro hsame
  have hrecords := hsame silentRounding 0 ⟨.fill 4 0, .fill 39 0, .fill 4 0⟩
    ⟨.fill 4 0, .fill 39 0, .fill 4 1⟩
  exact absurd hrecords (by decide +kernel)

end U3Tool
