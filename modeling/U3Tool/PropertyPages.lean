import U3Tool.Repartition

/-!
# Reading property pages

A property page is a byte string that tells its own length in bytes 4 and 5 (`Page`). A device has
stable pages when it answers every read of a page with the first bytes of one and the same byte
string (`StablePages`). `u3_read_device_property` reads the header first and then as much of the
page as the header announces and the buffer holds.

On stable pages this leaves the beginning of the page in the buffer and the rest of the buffer as it
was (`u3ReadDeviceProperty_reads_page`). When the header may change between the two reads, the
length field a caller finds in the buffer is that of the second header, while the number of bytes
received was decided by the first: the field can be trusted exactly when the first header did not
announce less (`u3ReadDeviceProperty_received_iff`). -/

set_option autoImplicit false
set_option relaxedAutoImplicit false

namespace U3Tool

open Interaction Bytes Program

variable {σ : Type} {size : ℕ}

/-! ### Stable pages -/

/-- The length field of a page or of the beginning of one, bytes 4 and 5. -/
def announcedLength (bytes : List UInt8) : UInt16 := leUInt16 ((bytes.drop 4).take 2)

/-- The length field of a buffer at whose start bytes were stored, a header at least. -/
theorem hdrLength_store {buffer : Buffer size} {bytes : List UInt8} (hbytes : 6 ≤ bytes.length)
    (hsize : 6 ≤ size) : hdrLength (buffer.store 0 bytes) = announcedLength bytes := by
  rw [hdrLength, Buffer.word16, Buffer.slice_store_zero hbytes hsize, announcedLength]

/-- The length field after the header read. -/
theorem hdrLength_headerRead_of_le {buffer : Buffer size} {header : List UInt8}
    (hheader : 6 ≤ header.length) (hsize : 6 ≤ size) :
    hdrLength (headerRead buffer header) = announcedLength header := by
  have htake : (header.take 6).length = 6 := List.length_take_of_le hheader
  change hdrLength (buffer.store 0 (header.take 6)) = _
  rw [hdrLength_store htake.ge hsize, announcedLength, List.drop_take, List.take_take]
  rfl

/-- A property page: at least a header, which announces the length of the page. -/
structure Page where
  bytes : List UInt8
  header_le : 6 ≤ bytes.length
  length_lt : bytes.length < 2 ^ 16
  announces : (announcedLength bytes).toNat = bytes.length

/-- A device with stable pages: every read of a page that exists, of at most its length, is answered
with its first bytes; every read of a page that does not is refused. -/
structure StablePages (device : Surroundings Scsi σ) (pages : UInt16 → Option Page) : Prop where
  present : ∀ {propertyId : UInt16} {page : Page}, pages propertyId = some page →
    ∀ (state : σ) (length : UInt16), length.toNat ≤ page.bytes.length →
      (device state (propertyRequest propertyId length)).1 =
        .success 0 (page.bytes.take length.toNat)
  missing : ∀ {propertyId : UInt16}, pages propertyId = none → ∀ (state : σ) (length : UInt16),
    ∃ status data, (device state (propertyRequest propertyId length)).1 = .success status data ∧
      status ≠ 0

/-- The number of bytes the second read asks for after a header. -/
def secondLength (bufferLength : UInt16) (header : List UInt8) : UInt16 :=
  if announcedLength header > bufferLength then bufferLength else announcedLength header

theorem toNat_secondLength (bufferLength : UInt16) (header : List UInt8) :
    (secondLength bufferLength header).toNat =
      min (announcedLength header).toNat bufferLength.toNat := by
  unfold secondLength
  split_ifs with hlonger
  · exact (min_eq_right (UInt16.lt_iff_toNat_lt.mp hlonger).le).symm
  · exact (min_eq_left (UInt16.le_iff_toNat_le.mp (UInt16.not_lt.mp hlonger))).symm

/-- The number of bytes of a page that are read into a buffer. -/
def Page.readLength (page : Page) (bufferLength : UInt16) : UInt16 :=
  secondLength bufferLength page.bytes

namespace Page

variable (page : Page) (bufferLength : UInt16)

theorem toNat_readLength :
    (page.readLength bufferLength).toNat = min page.bytes.length bufferLength.toNat := by
  rw [readLength, toNat_secondLength, page.announces]

variable {bufferLength}

theorem six_le_readLength (hlarge : 6 ≤ bufferLength) :
    6 ≤ (page.readLength bufferLength).toNat := by
  rw [toNat_readLength]
  exact le_min page.header_le (UInt16.le_iff_toNat_le.mp hlarge)

/-- The header in the buffer announces the length of the page. -/
theorem hdrLength_headerRead (hlarge : 6 ≤ bufferLength) (buffer : Buffer bufferLength.toNat) :
    hdrLength (headerRead buffer (page.bytes.take 6)) = announcedLength page.bytes := by
  rw [hdrLength_headerRead_of_le (by rw [List.length_take_of_le page.header_le])
    (UInt16.le_iff_toNat_le.mp hlarge), announcedLength, List.drop_take, List.take_take]
  rfl

/-- The full read asks for as much of the page as the buffer holds. -/
theorem pageLength_headerRead (hlarge : 6 ≤ bufferLength) (buffer : Buffer bufferLength.toNat) :
    pageLength (headerRead buffer (page.bytes.take 6)) = page.readLength bufferLength := by
  rw [pageLength, page.hdrLength_headerRead hlarge, UInt16.ofNat_toNat, readLength, secondLength]

/-- What the two reads leave in the buffer. -/
theorem bytes_pageRead (hlarge : 6 ≤ bufferLength) (buffer : Buffer bufferLength.toNat) :
    (pageRead buffer (page.bytes.take 6)
        (page.bytes.take (page.readLength bufferLength).toNat)).bytes =
      page.bytes.take (page.readLength bufferLength).toNat ++
        buffer.bytes.drop (page.readLength bufferLength).toNat := by
  have hsix := page.six_le_readLength hlarge
  have hlength := page.toNat_readLength bufferLength
  have hheader : 6 ≤ page.bytes.length := page.header_le
  have hsize : 6 ≤ bufferLength.toNat := UInt16.le_iff_toNat_le.mp hlarge
  have hread : (page.bytes.take (page.readLength bufferLength).toNat).length =
      (page.readLength bufferLength).toNat := by
    rw [List.length_take]
    omega
  have hfirst : (headerRead buffer (page.bytes.take 6)).bytes =
      page.bytes.take 6 ++ buffer.bytes.drop 6 := by
    have htake : (page.bytes.take 6).take propertyHeaderSize.toNat = page.bytes.take 6 := by
      rw [List.take_take]
      rfl
    have hsix' : (page.bytes.take 6).length = 6 := List.length_take_of_le hheader
    rw [headerRead, htake, Buffer.bytes_store_zero (by omega), hsix']
  rw [pageRead, page.pageLength_headerRead hlarge, List.take_take, min_self,
    Buffer.bytes_store_zero (by omega), hread, hfirst]
  congr 1
  -- the second read covers the header
  rw [List.drop_append, List.drop_drop, List.drop_eq_nil_of_le, List.nil_append]
  · congr 1
    rw [List.length_take_of_le hheader]
    omega
  · rw [List.length_take_of_le hheader]
    exact hsix

/-- Byte by byte: the beginning of the page, then what the buffer held. -/
theorem getElem?_bytes_pageRead (hlarge : 6 ≤ bufferLength) (buffer : Buffer bufferLength.toNat)
    (index : ℕ) :
    (pageRead buffer (page.bytes.take 6)
        (page.bytes.take (page.readLength bufferLength).toNat)).bytes[index]? =
      if index < min page.bytes.length bufferLength.toNat then page.bytes[index]?
      else buffer.bytes[index]? := by
  have hread : (page.bytes.take (page.readLength bufferLength).toNat).length =
      min page.bytes.length bufferLength.toNat := by
    rw [List.length_take, toNat_readLength]
    omega
  rw [page.bytes_pageRead hlarge, List.getElem?_append, hread, ← toNat_readLength]
  split_ifs with hindex
  · rw [List.getElem?_take, if_pos hindex]
  · rw [List.getElem?_drop]
    congr 1
    omega

end Page

/-- No request of a property read asks for more bytes than the buffer holds. -/
theorem length_le_of_run_u3ReadDeviceProperty {propertyId bufferLength : UInt16}
    (hlarge : 6 ≤ bufferLength) {buffer : Buffer bufferLength.toNat} {trace : List (Event Scsi)}
    {result : Except ErrMsg (Buffer bufferLength.toNat)}
    (hrun : Run (u3ReadDeviceProperty propertyId buffer) trace result) :
    ∀ event ∈ trace, event.request.length ≤ bufferLength.toNat := by
  have hheader : (propertyRequest propertyId propertyHeaderSize).length ≤ bufferLength.toNat :=
    UInt16.le_iff_toNat_le.mp hlarge
  have hpage (header : Buffer bufferLength.toNat) :
      (propertyRequest propertyId (pageLength header)).length ≤ bufferLength.toNat := by
    change (pageLength header).toNat ≤ bufferLength.toNat
    unfold pageLength
    rw [UInt16.ofNat_toNat]
    split_ifs with hlonger
    · exact le_rfl
    · exact UInt16.le_iff_toNat_le.mp (UInt16.not_lt.mp hlonger)
  rcases run_u3ReadDeviceProperty hrun with
    ⟨error, -, ⟨-, rfl⟩ | ⟨reply, rfl, -⟩⟩ | ⟨-, header, rest, rfl, -, hrest⟩
  · simp
  · simpa using hheader
  · obtain ⟨reply, rfl, -⟩ := run_readFullProperty hrest
    simp [hheader, hpage]

/-! ### Reading a stable page -/

section Stable

variable {device : Surroundings Scsi σ} {pages : UInt16 → Option Page}
  {propertyId bufferLength : UInt16}

/-- The events of reading a page that exists. -/
def Page.readEvents (page : Page) (propertyId bufferLength : UInt16) : List (Event Scsi) :=
  [⟨propertyRequest propertyId 6, .success 0 (page.bytes.take 6)⟩,
    ⟨propertyRequest propertyId (page.readLength bufferLength),
      .success 0 (page.bytes.take (page.readLength bufferLength).toNat)⟩]

/-- Reading a page that exists: what is asked, what is answered and the state that is left do not
depend on what the buffer held. -/
theorem exec_read_present (hstable : StablePages device pages) {page : Page}
    (hpage : pages propertyId = some page) (hlarge : 6 ≤ bufferLength)
    (buffer : Buffer bufferLength.toNat) (state : σ) :
    exec device (u3ReadDeviceProperty propertyId buffer) state =
      ⟨.ok (pageRead buffer (page.bytes.take 6)
          (page.bytes.take (page.readLength bufferLength).toNat)),
        page.readEvents propertyId bufferLength,
        (device (device state (propertyRequest propertyId 6)).2
          (propertyRequest propertyId (page.readLength bufferLength))).2⟩ := by
  have hheader : (device state (propertyRequest propertyId 6)).1 =
      .success 0 (page.bytes.take 6) := hstable.present hpage state 6 page.header_le
  have hbody := hstable.present hpage (device state (propertyRequest propertyId 6)).2
    (page.readLength bufferLength) (by rw [page.toNat_readLength]; exact min_le_left _ _)
  have hlength := page.pageLength_headerRead hlarge buffer
  have hlong : ¬ hdrLength (headerRead buffer (page.bytes.take 6)) < propertyHeaderSize := by
    rw [page.hdrLength_headerRead hlarge, UInt16.not_lt, UInt16.le_iff_toNat_le, page.announces]
    exact page.header_le
  have hsize : ¬ UInt16.ofNat bufferLength.toNat < 6 := by
    rw [UInt16.ofNat_toNat]
    exact UInt16.not_lt.mpr hlarge
  have hfirst : device state (propertyRequest propertyId propertyHeaderSize) =
      (.success 0 (page.bytes.take 6), (device state (propertyRequest propertyId 6)).2) :=
    Prod.ext hheader rfl
  have hexec := exec_u3ReadDeviceProperty hsize hfirst hlong
    (by rw [hlength]; exact Prod.ext hbody rfl)
  rw [hlength] at hexec
  exact hexec

/-- The text of a property read whose header is refused. -/
def headerUnreadable (propertyId : UInt16) : ErrMsg :=
  u3SetError s!"Header of property 0x{upperHex 4 propertyId.toNat} could not be read."

/-- Reading a page that does not exist fails at the header. -/
theorem exec_read_missing (hstable : StablePages device pages) (hpage : pages propertyId = none)
    (hlarge : 6 ≤ bufferLength) (buffer : Buffer bufferLength.toNat) (state : σ) :
    exec device (u3ReadDeviceProperty propertyId buffer) state =
      ⟨.error (headerUnreadable propertyId),
        [⟨propertyRequest propertyId 6, (device state (propertyRequest propertyId 6)).1⟩],
        (device state (propertyRequest propertyId 6)).2⟩ := by
  obtain ⟨status, data, hreply, hstatus⟩ := hstable.missing hpage state 6
  have hsize : ¬ UInt16.ofNat bufferLength.toNat < 6 := by
    rw [UInt16.ofNat_toNat]
    exact UInt16.not_lt.mpr hlarge
  have henv : device state (propertyRequest propertyId propertyHeaderSize) =
      (.success status data, (device state (propertyRequest propertyId 6)).2) :=
    Prod.ext hreply rfl
  unfold u3ReadDeviceProperty
  dsimp only
  rw [if_neg hsize, exec_u3SendCmd_bind henv, hreply]
  dsimp only
  rw [if_pos hstatus]
  rfl

/-- A page that fills the buffer leaves nothing of what the buffer held. -/
theorem exec_read_congr (hstable : StablePages device pages) (hlarge : 6 ≤ bufferLength)
    (hlong : ∀ page, pages propertyId = some page → bufferLength.toNat ≤ page.bytes.length)
    (first second : Buffer bufferLength.toNat) (state : σ) :
    exec device (u3ReadDeviceProperty propertyId first) state =
      exec device (u3ReadDeviceProperty propertyId second) state := by
  cases hpage : pages propertyId with
  | none =>
    rw [exec_read_missing hstable hpage hlarge, exec_read_missing hstable hpage hlarge]
  | some page =>
    have hread : (page.readLength bufferLength).toNat = bufferLength.toNat := by
      rw [page.toNat_readLength]
      exact min_eq_right (hlong page hpage)
    rw [exec_read_present hstable hpage hlarge, exec_read_present hstable hpage hlarge]
    congr 2
    apply Buffer.ext
    rw [page.bytes_pageRead hlarge, page.bytes_pageRead hlarge, hread,
      List.drop_eq_nil_of_le (by simp), List.drop_eq_nil_of_le (by simp)]

/-- The property read of a device with stable pages returns exactly when the page exists, and then
leaves the beginning of the page in the buffer and the rest of the buffer as it was. Whatever the
device, no request asks for more bytes than the buffer holds. -/
theorem u3ReadDeviceProperty_reads_page (hstable : StablePages device pages)
    (hlarge : 6 ≤ bufferLength) (buffer : Buffer bufferLength.toNat) (state : σ) :
    ((∃ read, (exec device (u3ReadDeviceProperty propertyId buffer) state).result = .ok read) ↔
        ∃ page, pages propertyId = some page) ∧
      (∀ page read, pages propertyId = some page →
        (exec device (u3ReadDeviceProperty propertyId buffer) state).result = .ok read →
        ∀ index, read.bytes[index]? =
          if index < min page.bytes.length bufferLength.toNat then page.bytes[index]?
          else buffer.bytes[index]?) ∧
      ∀ (trace : List (Event Scsi)) (result : Except ErrMsg (Buffer bufferLength.toNat)),
        Run (u3ReadDeviceProperty propertyId buffer) trace result →
        ∀ event ∈ trace, event.request.length ≤ bufferLength.toNat := by
  refine ⟨?_, fun page read hpage hread index ↦ ?_, fun trace result hrun ↦ ?_⟩
  · cases hpage : pages propertyId with
    | none => simp [exec_read_missing hstable hpage hlarge buffer state]
    | some page => simp [exec_read_present hstable hpage hlarge buffer state]
  · rw [exec_read_present hstable hpage hlarge buffer state] at hread
    rw [← Except.ok.inj hread]
    exact page.getElem?_bytes_pageRead hlarge buffer index
  · exact length_le_of_run_u3ReadDeviceProperty hlarge hrun

end Stable

/-- A device that answers the reads of its property pages, and every other command as it is told. -/
def pageDevice (pages : UInt16 → Option Page) (others : CmdRequest → CmdReply) :
    Surroundings Scsi Unit := fun _ request ↦
  if request.command = 0x00 then
    match pages (request.cmd.word16 3) with
    | some page => (.success 0 (page.bytes.take request.length), ())
    | none => (.success 1 [], ())
  else (others request, ())

theorem stablePages_pageDevice (pages : UInt16 → Option Page) (others : CmdRequest → CmdReply) :
    StablePages (pageDevice pages others) pages := by
  have hcommand (propertyId length : UInt16) :
      (propertyRequest propertyId length).command = 0x00 := word16_propertyCommand _ _
  have hasked (propertyId length : UInt16) :
      (propertyRequest propertyId length).cmd.word16 3 = propertyId := leUInt16_leBytes propertyId
  constructor
  · intro propertyId page hpage state length hlength
    rw [pageDevice, if_pos (hcommand _ _), hasked, hpage]
    rfl
  · intro propertyId hpage state length
    rw [pageDevice, if_pos (hcommand _ _), hasked, hpage]
    exact ⟨1, [], rfl, by decide⟩

/-- Property page 0x0C of a device that allows three wrong passwords. -/
def securityPage : Page where
  bytes := [0x0c, 0, 1, 0, 10, 0, 3, 0, 0, 0]
  header_le := by decide
  length_lt := by decide
  announces := by decide

/-- A buffer of 12 bytes after that page was read into it. -/
def securityRead : Buffer (UInt16.toNat 12) :=
  (Buffer.fill (UInt16.toNat 12) 0xaa).store 0 securityPage.bytes

/-- Reading that page into a buffer of 12 bytes leaves the last two bytes alone. -/
theorem u3ReadDeviceProperty_reads_page_witness :
    (exec (pageDevice (fun _ ↦ some securityPage) fun _ ↦ .success 1 [])
        (u3ReadDeviceProperty 0x0C (.fill (UInt16.toNat 12) 0xaa)) ()).result =
        .ok securityRead ∧
      ∀ index, securityRead.bytes[index]? =
        if index < min securityPage.bytes.length (UInt16.toNat 12) then securityPage.bytes[index]?
        else (Buffer.fill (UInt16.toNat 12) 0xaa).bytes[index]? := by
  have hresult : (exec (pageDevice (fun _ ↦ some securityPage) fun _ ↦ .success 1 [])
      (u3ReadDeviceProperty 0x0C (.fill (UInt16.toNat 12) 0xaa)) ()).result =
      .ok securityRead := by decide +kernel
  exact ⟨hresult, (u3ReadDeviceProperty_reads_page (stablePages_pageDevice _ _) (by decide)
    (.fill (UInt16.toNat 12) 0xaa) ()).2.1 securityPage securityRead rfl hresult⟩

/-! ### Headers that disagree -/

section Received

variable {propertyId bufferLength : UInt16} {trace : List (Event Scsi)}

/-- Every transfer completes: an accepted command with an incoming data phase receives exactly the
bytes it asks for. -/
def Complete (trace : List (Event Scsi)) : Prop :=
  ∀ event ∈ trace, event.reply.Accepted → event.request.direction = .fromDev →
    event.reply.data.length = event.request.length

instance : DecidablePred Complete := fun trace ↦
  inferInstanceAs (Decidable (∀ event ∈ trace, event.reply.Accepted →
    event.request.direction = .fromDev → event.reply.data.length = event.request.length))

/-- As far as the header in the buffer says that there is a page, the buffer holds what the second
read received. -/
def HeaderHonest (bufferLength : UInt16) (read : Buffer bufferLength.toNat) (body : List UInt8) :
    Prop :=
  ∀ index < min (hdrLength read).toNat bufferLength.toNat, body[index]? = read.bytes[index]?

/-- A property read over complete transfers receives the beginning of the buffer, of the length the
first header announces. -/
theorem run_read_complete {buffer read : Buffer bufferLength.toNat}
    (hrun : Run (u3ReadDeviceProperty propertyId buffer) trace (.ok read))
    (hcomplete : Complete trace) :
    ∃ header body, trace = [⟨propertyRequest propertyId 6, .success 0 header⟩,
        ⟨propertyRequest propertyId (secondLength bufferLength header), .success 0 body⟩] ∧
      body.length = (secondLength bufferLength header).toNat ∧ 6 ≤ body.length ∧
      read.bytes.take body.length = body := by
  obtain ⟨hsmall, header, body, rfl, hlong, rfl⟩ := run_u3ReadDeviceProperty_ok.mp hrun
  rw [UInt16.ofNat_toNat, UInt16.not_lt] at hsmall
  have hsize : 6 ≤ bufferLength.toNat := UInt16.le_iff_toNat_le.mp hsmall
  have hheader : header.length = 6 :=
    hcomplete _ (List.mem_cons_self ..) ⟨header, rfl⟩ rfl
  have hbody : body.length = (pageLength (headerRead buffer header)).toNat :=
    hcomplete _ (List.mem_cons_of_mem _ (List.mem_singleton_self _)) ⟨body, rfl⟩ rfl
  have hannounced : hdrLength (headerRead buffer header) = announcedLength header :=
    hdrLength_headerRead_of_le hheader.ge hsize
  have hpage : pageLength (headerRead buffer header) = secondLength bufferLength header := by
    rw [pageLength, hannounced, UInt16.ofNat_toNat, secondLength]
  rw [hpage] at hbody
  have hsix : 6 ≤ (secondLength bufferLength header).toNat := by
    rw [toNat_secondLength, ← hannounced]
    exact le_min (UInt16.le_iff_toNat_le.mp (UInt16.not_lt.mp hlong)) hsize
  refine ⟨header, body, by rw [hpage]; rfl, hbody, hbody ▸ hsix, ?_⟩
  have hfits : body.length ≤ bufferLength.toNat := by
    rw [hbody, toNat_secondLength]
    exact min_le_right _ _
  rw [pageRead, hpage, List.take_of_length_le hbody.le, Buffer.bytes_store_zero hfits,
    List.take_left]

/-- Over complete transfers, a property read leaves a buffer whose header can be trusted if and only
if the first header announced no less than the second, up to the size of the buffer. -/
theorem headerHonest_iff {buffer read : Buffer bufferLength.toNat}
    (hrun : Run (u3ReadDeviceProperty propertyId buffer) trace (.ok read))
    (hcomplete : Complete trace) :
    ∃ first second, trace = [first, second] ∧
      (HeaderHonest bufferLength read second.reply.data ↔
        min (announcedLength second.reply.data).toNat bufferLength.toNat ≤
          (announcedLength first.reply.data).toNat) := by
  obtain ⟨header, body, rfl, hlength, hsix, hread⟩ := run_read_complete hrun hcomplete
  refine ⟨_, _, rfl, ?_⟩
  change HeaderHonest bufferLength read body ↔ min (announcedLength body).toNat bufferLength.toNat ≤
    (announcedLength header).toNat
  have hsize : body.length ≤ bufferLength.toNat := by
    rw [hlength, toNat_secondLength]
    exact min_le_right _ _
  have hannounced : hdrLength read = announcedLength body := by
    rw [hdrLength, Buffer.word16, announcedLength, ← hread, List.drop_take, List.take_take,
      min_eq_left (by omega), Buffer.slice]
  have hreceived : HeaderHonest bufferLength read body ↔
      min (hdrLength read).toNat bufferLength.toNat ≤ body.length := by
    constructor
    · intro hhonest
      by_contra hshort
      have hindex : body.length < bufferLength.toNat := by omega
      have hnone := hhonest body.length (by omega)
      rw [List.getElem?_eq_none le_rfl, List.getElem?_eq_getElem (by simpa using hindex)] at hnone
      exact absurd hnone (by simp)
    · intro hlong index hindex
      rw [← hread, List.getElem?_take, if_pos (by omega)]
  rw [hreceived, hannounced, hlength, toNat_secondLength]
  omega

/-- Over complete transfers, whenever `u3_partition` sends its record, the device size it was
computed from was received in the second read of the page if and only if the first header announced
the whole page. -/
theorem deviceSize_received_iff {cdSize : UInt32} {stack : PartitionStack} {event : Event Scsi}
    {result : Except ErrMsg Unit} (hrun : Run (u3Partition cdSize stack) trace result)
    (hcomplete : Complete trace) (hevent : event ∈ trace) (hsent : event.request.command = 0x22) :
    ∃ answers : PartitionAnswers, trace = answers.queries cdSize stack ++ [event] ∧
      event.request = recordRequest
        (partitionRecord (answers.dataSize stack) (answers.rounded cdSize stack)) ∧
      ((∀ index, 35 ≤ index → index < 39 →
          answers.page[index]? = (answers.properties stack).bytes[index]?) ↔
        39 ≤ (announcedLength answers.header).toNat) := by
  obtain ⟨answers, hpasses, rfl, hrequest, -⟩ := queries_of_sent_record hrun hevent hsent
  refine ⟨answers, rfl, hrequest, ?_⟩
  have hread : Run (u3ReadDeviceProperty 3 stack.deviceProperties) (answers.propertyEvents stack)
      (.ok (answers.properties stack)) :=
    run_u3ReadDeviceProperty_ok.mpr
      ⟨by decide, answers.header, answers.page, rfl, hpasses.header_length, rfl⟩
  have hpages : Complete (answers.propertyEvents stack) := fun event hevent ↦
    hcomplete event (List.mem_append_left _
      (List.mem_append_right _ (List.mem_append_left _ hevent)))
  obtain ⟨header, body, hevents, hlength, -, hbody⟩ :=
    @run_read_complete 3 39 _ _ _ hread hpages
  obtain ⟨hfirst, hrest⟩ := List.cons.inj hevents
  obtain ⟨hsecond, -⟩ := List.cons.inj hrest
  obtain ⟨-, rfl⟩ := CmdReply.success.inj (eq_of_heq (Event.mk.inj hfirst).2)
  obtain ⟨-, rfl⟩ := CmdReply.success.inj (eq_of_heq (Event.mk.inj hsecond).2)
  have hmin : answers.page.length = min (announcedLength answers.header).toNat 39 :=
    hlength.trans (toNat_secondLength 39 _)
  constructor
  · intro hreceived
    by_contra hshort
    have hnone := hreceived 38 (by norm_num) (by norm_num)
    rw [List.getElem?_eq_none (by omega), List.getElem?_eq_getElem (by simp)] at hnone
    exact absurd hnone (by simp)
  · intro hwhole index _ hindex
    rw [← hbody, List.getElem?_take, if_pos (by omega)]

/-- Whether what a caller finds in the buffer was received. Over complete transfers, the bytes that
the header in the buffer says are there were all received in the second read if and only if, up to
the size of the buffer, the first header announced no less than the second; and the device size from
which `u3_partition` computes the record it sends was received if and only if the first header
announced the whole page. -/
theorem u3ReadDeviceProperty_received_iff (propertyId bufferLength : UInt16)
    (buffer : Buffer bufferLength.toNat) (cdSize : UInt32) (stack : PartitionStack) :
    (∀ (read : Buffer bufferLength.toNat) (trace : List (Event Scsi)),
        Run (u3ReadDeviceProperty propertyId buffer) trace (.ok read) → Complete trace →
        ∃ first second, trace = [first, second] ∧
          (HeaderHonest bufferLength read second.reply.data ↔
            min (announcedLength second.reply.data).toNat bufferLength.toNat ≤
              (announcedLength first.reply.data).toNat)) ∧
      ∀ (trace : List (Event Scsi)) (result : Except ErrMsg Unit) (event : Event Scsi),
        Run (u3Partition cdSize stack) trace result → Complete trace → event ∈ trace →
        event.request.command = 0x22 →
        ∃ answers : PartitionAnswers, trace = answers.queries cdSize stack ++ [event] ∧
          event.request = recordRequest
            (partitionRecord (answers.dataSize stack) (answers.rounded cdSize stack)) ∧
          ((∀ index, 35 ≤ index → index < 39 →
              answers.page[index]? = (answers.properties stack).bytes[index]?) ↔
            39 ≤ (announcedLength answers.header).toNat) :=
  ⟨fun _ _ hrun hcomplete ↦ headerHonest_iff hrun hcomplete,
    fun _ _ _ hrun hcomplete hevent hsent ↦
      deviceSize_received_iff hrun hcomplete hevent hsent⟩

end Received

/-- A device whose property page announces 6 bytes when it is read first and 39 bytes from then on;
it rounds to the size it is given. -/
def growingPage : Surroundings Scsi ℕ := fun state request ↦
  if request.command = 0x00 then
    (.success 0 [3, 0, 1, 0, if state = 0 then 6 else 39, 0], state + 1)
  else if request.command = 0x20 then (.success 0 (request.cmd.slice 4 4), state)
  else (.success 0 [], state)

/-- The stack of a call of `u3_partition`, filled with one byte. -/
def filledStack (byte : UInt8) : PartitionStack := ⟨.fill 4 byte, .fill 39 byte, .fill 4 byte⟩

/-- What a read of that page leaves in a buffer of 39 bytes. -/
def grownRead : Buffer (UInt16.toNat 39) :=
  (Buffer.fill (UInt16.toNat 39) 0xaa).store 0 [3, 0, 1, 0, 39, 0]

theorem u3ReadDeviceProperty_received_iff_witness :
    ∃ first second, (exec growingPage (u3ReadDeviceProperty 3
        (.fill (UInt16.toNat 39) 0xaa)) 0).trace = [first, second] ∧
      (HeaderHonest 39 grownRead second.reply.data ↔
        min (announcedLength second.reply.data).toNat (UInt16.toNat 39) ≤
          (announcedLength first.reply.data).toNat) := by
  have hresult : (exec growingPage (u3ReadDeviceProperty 3
      (.fill (UInt16.toNat 39) 0xaa)) 0).result = .ok grownRead := by decide +kernel
  exact (u3ReadDeviceProperty_received_iff 3 39 (.fill (UInt16.toNat 39) 0xaa) 0
    (filledStack 0xaa)).1 grownRead _ (hresult ▸ run_exec _ _ _) (by decide +kernel)

/-- Over complete transfers with that device, six bytes are received for a page of 39, and
`u3_partition` sends a record whose data size was on the stack. -/
theorem u3Partition_trusts_second_header :
    (∃ read, (exec growingPage (u3ReadDeviceProperty 3
          (.fill (UInt16.toNat 39) 0xaa)) 0).result = .ok read ∧
        Complete (exec growingPage (u3ReadDeviceProperty 3
          (.fill (UInt16.toNat 39) 0xaa)) 0).trace ∧
        (exec growingPage (u3ReadDeviceProperty 3 (.fill (UInt16.toNat 39) 0xaa)) 0).trace.map
          (fun event ↦ event.reply.data) = [[3, 0, 1, 0, 6, 0], [3, 0, 1, 0, 39, 0]] ∧
        ¬ HeaderHonest 39 read [3, 0, 1, 0, 39, 0]) ∧
      Complete (exec growingPage (u3Partition 0 (filledStack 0xaa)) 0).trace ∧
      ((exec growingPage (u3Partition 0 (filledStack 0xaa)) 0).trace.map
        fun event ↦ event.request.data).getLast? = some (partitionRecord 0xaaaaaaaa 0).encode := by
  refine ⟨⟨_, rfl, by decide +kernel, by decide +kernel, fun hhonest ↦ ?_⟩, by decide +kernel,
    by decide +kernel⟩
  exact absurd (hhonest 6 (by decide +kernel)) (by decide +kernel)

end U3Tool
