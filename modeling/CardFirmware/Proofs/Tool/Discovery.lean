import CardFirmware.Proofs.Text.Utf8
import CardFirmware.Proofs.Tool.Ports

/-! What is found out about sound cards. The serial number of a card is the first word of the file
that stands next to the number of its device, and of several supported cards with one serial number
the one with the lowest number is found (`serial_lookup`). A port is not found where its files have
paths that are too long, nor below what cannot be searched (`ports_overlooked`). -/

namespace CardFirmware

namespace Text

/-- A word of a text with nothing but blanks before it, and a blank or nothing after it. -/
def IsFirstWord (word text : String) : Prop :=
  ∃ before after, text.toList = before ++ (word.toList ++ after) ∧ (∀ c ∈ before, isBlank c) ∧
    word ≠ "" ∧ (∀ c ∈ word.toList, ¬isBlank c) ∧ ∀ c ∈ after.head?, isBlank c

theorem firstWord?_eq_some {text word : String} :
    firstWord? text = some word ↔ IsFirstWord word text := by
  constructor
  · intro h
    have hhead := List.head?_dropWhile_not isBlank text.toList
    unfold firstWord? at h
    cases hrest : text.toList.dropWhile isBlank with
    | nil =>
      rw [hrest] at h
      cases h
    | cons c rest =>
      rw [hrest] at h hhead
      cases h
      have hafter := List.head?_dropWhile_not (fun c => !isBlank c) (c :: rest)
      refine ⟨text.toList.takeWhile isBlank, (c :: rest).dropWhile fun c => !isBlank c, ?_,
        List.all_eq_true.mp List.all_takeWhile, ?_, ?_, ?_⟩
      · rw [String.toList_ofList, List.takeWhile_append_dropWhile, ← hrest,
          List.takeWhile_append_dropWhile]
      · rw [List.takeWhile_cons_of_pos (by simpa using hhead)]
        simp
      · rw [String.toList_ofList]
        intro d hd
        simpa using List.all_eq_true.mp List.all_takeWhile d hd
      · intro d hd
        rw [Option.mem_def.mp hd] at hafter
        simpa using hafter
  · rintro ⟨before, after, htext, hbefore, hne, hword, hafter⟩
    have hne : word.toList ≠ [] := fun h => hne (String.toList_eq_nil_iff.mp h)
    obtain ⟨c, rest, hcons⟩ := List.exists_cons_of_ne_nil hne
    have hdrop : text.toList.dropWhile isBlank = word.toList ++ after := by
      rw [htext, List.dropWhile_append_of_pos hbefore, hcons, List.cons_append,
        List.dropWhile_cons_of_neg (hword c (by simp [hcons]))]
    have hend : after.takeWhile (fun c => !isBlank c) = [] := by
      cases after with
      | nil => rfl
      | cons d after => simp [hafter d rfl]
    have htake : (word.toList ++ after).takeWhile (fun c => !isBlank c) = word.toList := by
      rw [List.takeWhile_append_of_pos (by simpa using hword), hend, List.append_nil]
    unfold firstWord?
    rw [hdrop]
    split
    · next h => exact absurd (List.append_eq_nil_iff.mp h).1 hne
    · rw [htake, String.ofList_toList]

end Text

namespace FileTree

variable {t : FileTree}

theorem entry_along {mark : List Char} {start : FileEntry} {way : List Path} {path : Path}
    {children : List (Path × FileEntry)} (hleads : start.Leads mark way children)
    (hnamed : start.WellNamed) (hlinkless : start.Linkless) (hentry : t.entry path = .ok start)
    (hlimit : withinLimit (path.along way)) :
    ∃ listable, t.entry (path.along way) = .ok (.directory listable children) ∧
      (FileEntry.directory listable children).Linkless := by
  induction hleads generalizing path with
  | here listable children => exact ⟨listable, hentry, hlinkless⟩
  | down hmem hmark hway ih =>
    have hchild := hnamed.child hmem
    have hlookup := hnamed.listing.lookup hmem
    refine ih hchild (hlinkless.child hlookup) ?_ hlimit
    rw [entry_join hentry (hnamed.listing.isName _ hmem) (hlinkless.lookup_ne _), hlookup,
      if_pos (withinLimit_of_along hway hchild hlimit)]

end FileTree

namespace Discovery

def busDirectory (d : Discovery) (bus : UInt32) : Path := d.usbRoot.join s!"usb{bus.toNat}"

theorem busDirectory_ne_empty (d : Discovery) (bus : UInt32) : d.busDirectory bus ≠ .empty := by
  refine Path.join_ne_empty ?_
  have htext : s!"usb{bus.toNat}" = "usb" ++ toString bus.toNat := rfl
  rw [htext, Ne, Path.eq_empty_iff, Path.ofText, Text.Utf8.encode, String.toList_append,
    List.flatMap_append]
  exact List.append_ne_nil_of_left_ne_nil (by decide) _

structure FirstPort (bus device : UInt32) (path : Path) (start : FileEntry) (way : List Path)
    (children : List (Path × FileEntry)) : Prop where
  port : IsPort (portMark bus) device path start way children
  first : ∀ other below, IsPort (portMark bus) device path start other below → List.le way other

/-- A tree as any system of files keeps it, without links. -/
structure Plain (start : FileEntry) : Prop where
  wellNamed : start.WellNamed
  linkless : start.Linkless

variable {d : Discovery} {t : FileTree} {bus device : UInt32} {path : Path} {start : FileEntry}

theorem searched_levelMax (bus device : UInt32) (hempty : path ≠ .empty)
    (hentry : t.entry path = .ok start) (hstart : Plain start) :
    Searched (portMark bus) device path start
      (findPort t (portMark bus) device levelMax path) :=
  findPort_first levelMax (Nat.lt_of_lt_of_le (Nat.lt_succ_self _) (Nat.le_add_left _ _)) hentry
    hstart.wellNamed hstart.linkless hempty

theorem findPort_eq_some (hempty : path ≠ .empty)
    (hplain : ∀ start, t.entry path = .ok start → Plain start) {port : Path} :
    findPort t (portMark bus) device levelMax path = some port ↔
      ∃ start way children, t.entry path = .ok start ∧
        FirstPort bus device path start way children ∧ port = path.along way := by
  cases hentry : t.entry path with
  | error cause =>
    rw [findPort_of_no_directory hempty (by simp [hentry])]
    simp
  | ok start =>
    have hsearched := searched_levelMax bus device hempty hentry (hplain start hentry)
    constructor
    · intro h
      obtain ⟨way, children, hport, hway, hfirst⟩ := (h ▸ hsearched).exists_way
      exact ⟨start, way, children, rfl, ⟨hway, hfirst⟩, hport⟩
    · rintro ⟨_, way, children, ⟨⟩, ⟨hport, hfirst⟩, rfl⟩
      cases hfound : findPort t (portMark bus) device levelMax path with
      | none => exact absurd hport (hfound ▸ hsearched).not_isPort
      | some port =>
        obtain ⟨way', children', rfl, hport', hfirst'⟩ := (hfound ▸ hsearched).exists_way
        rw [List.le_antisymm (hfirst _ _ hport') (hfirst' _ _ hport)]

theorem isSome_findPort (hempty : path ≠ .empty)
    (hplain : ∀ start, t.entry path = .ok start → Plain start) :
    (findPort t (portMark bus) device levelMax path).isSome ↔
      ∃ start way children, t.entry path = .ok start ∧
        IsPort (portMark bus) device path start way children := by
  rw [Option.isSome_iff_exists]
  simp only [findPort_eq_some hempty hplain]
  constructor
  · rintro ⟨_, start, way, children, hentry, hfirst, -⟩
    exact ⟨start, way, children, hentry, hfirst.port⟩
  · rintro ⟨start, way, children, hentry, hport⟩
    have hsearched := searched_levelMax bus device hempty hentry (hplain start hentry)
    cases hfound : findPort t (portMark bus) device levelMax path with
    | none => exact absurd hport (hfound ▸ hsearched).not_isPort
    | some port =>
      obtain ⟨way', children', rfl, hport', hfirst'⟩ := (hfound ▸ hsearched).exists_way
      exact ⟨_, start, way', children', hentry, ⟨hport', hfirst'⟩, rfl⟩

def HasSerial (d : Discovery) (t : FileTree) (card : UInt32) (word : String) : Prop :=
  ∃ bus device start way children content text,
    CardFiles.usbBus t d.cardRoot card = .ok (bus, device) ∧
    t.entry (d.busDirectory bus) = .ok start ∧
    FirstPort bus device (d.busDirectory bus) start way children ∧
    children.lookup ("serial" : Path) = some (.file content) ∧
    Text.Utf8.decode? content = some text ∧ Text.IsFirstWord word text

theorem readText_serial {way : List Path} {children : List (Path × FileEntry)} {text : String}
    (hstart : Plain start) (hentry : t.entry path = .ok start)
    (hport : IsPort (portMark bus) device path start way children) :
    t.readText ((path.along way).join "serial") = .ok text ↔
      ∃ content, children.lookup ("serial" : Path) = some (.file content) ∧
        Text.Utf8.decode? content = some text := by
  have hwithin := hport.within
  have hpath := FileTree.withinLimit_of_join (by decide) hwithin
  obtain ⟨listable, hdirectory, hlinkless⟩ :=
    FileTree.entry_along hport.leads hstart.wellNamed hstart.linkless hentry hpath
  -- The two files have names of one length.
  have hserial : FileTree.withinLimit ((path.along way).join "serial") := by
    rw [FileTree.withinLimit, Path.join_eq (by decide), Path.bytes_append, List.length_append]
      at hwithin ⊢
    exact hwithin
  rw [FileTree.readText_eq_ok]
  have hname : Path.IsName "serial" := by decide
  simp only [FileTree.readBytes_join_eq_ok hdirectory hname (hlinkless.lookup_ne _), hserial,
    true_and]

theorem serial_eq_some
    (hplain : ∀ bus start, t.entry (d.busDirectory bus) = .ok start → Plain start)
    {card : UInt32} {word : String} :
    d.serial t card = some word ↔ HasSerial d t card word := by
  have hempty (bus : UInt32) := d.busDirectory_ne_empty bus
  simp only [serial, bind, Option.bind_eq_some_iff, toOption_eq_some, Prod.exists]
  constructor
  · rintro ⟨bus, device, hbus, port, hport, text, htext, hword⟩
    obtain ⟨start, way, children, hentry, hfirst, rfl⟩ :=
      (findPort_eq_some (hempty bus) (hplain bus)).mp hport
    obtain ⟨content, hcontent, hdecode⟩ :=
      (readText_serial (hplain bus start hentry) hentry hfirst.port).mp htext
    exact ⟨bus, device, start, way, children, content, text, hbus, hentry, hfirst, hcontent,
      hdecode, Text.firstWord?_eq_some.mp hword⟩
  · rintro ⟨bus, device, start, way, children, content, text, hbus, hentry, hfirst, hcontent,
      hdecode, hword⟩
    exact ⟨bus, device, hbus, _, (findPort_eq_some (hempty bus) (hplain bus)).mpr
        ⟨start, way, children, hentry, hfirst, rfl⟩, text,
      (readText_serial (hplain bus start hentry) hentry hfirst.port).mpr
        ⟨content, hcontent, hdecode⟩, Text.firstWord?_eq_some.mpr hword⟩

def Listed (d : Discovery) (t : FileTree) (card : UInt32) : Prop :=
  ∃ children name e, t.list d.cardRoot = .ok children ∧ (name, e) ∈ children ∧
    CardFiles.cardNumber? name = some card

def Supported (d : Discovery) (t : FileTree) (c : SoundCard) : Prop :=
  CardFiles.usbId t d.cardRoot c.card = .ok c.usbId ∧ c.usbId.vid = vendorId ∧
    ⟨c.usbId.pid, c.product⟩ ∈ supportedProducts ∧ c.serial = d.serial t c.card ∧
    c.status = d.status t c.card

theorem supportedProduct?_eq_some {pid : UInt16} {product : Product} :
    supportedProduct? pid = some product ↔ product ∈ supportedProducts ∧ product.pid = pid := by
  have hpids : ∀ p ∈ supportedProducts, supportedProduct? p.pid = some p := by decide
  constructor
  · intro h
    exact ⟨List.mem_of_find?_eq_some h, by simpa using List.find?_some h⟩
  · rintro ⟨hmem, rfl⟩
    exact hpids product hmem

theorem probe_eq_some {card : UInt32} {c : SoundCard} :
    d.probe t card = some c ↔ c.card = card ∧ Supported d t c := by
  simp only [probe, bind, Option.bind_eq_some_iff, toOption_eq_some, Supported]
  constructor
  · rintro ⟨id, hid, hc⟩
    split at hc
    · next hvendor =>
      obtain ⟨product, hproduct, hc⟩ := Option.bind_eq_some_iff.mp hc
      obtain ⟨hmem, hpid⟩ := supportedProduct?_eq_some.mp hproduct
      cases hc
      rw [← hpid]
      exact ⟨rfl, hid, hvendor, hmem, rfl, rfl⟩
    · cases hc
  · rintro ⟨rfl, hid, hvendor, hmem, hserial, hstatus⟩
    refine ⟨c.usbId, hid, ?_⟩
    rw [if_pos hvendor, supportedProduct?_eq_some.mpr ⟨hmem, rfl⟩, ← hserial, ← hstatus]
    rfl

theorem mem_cards {numbers : List UInt32} (h : CardFiles.cards t d.cardRoot = .ok numbers) :
    numbers.Pairwise (· ≤ ·) ∧ ∀ n, n ∈ numbers ↔ Listed d t n := by
  unfold CardFiles.cards at h
  cases hlist : t.list d.cardRoot with
  | error cause =>
    rw [hlist] at h
    cases h
  | ok children =>
    rw [hlist] at h
    cases h
    refine ⟨?_, fun n => ?_⟩
    · have htrans (a b c : UInt32) (hab : decide (a ≤ b)) (hbc : decide (b ≤ c)) :
          decide (a ≤ c) :=
        decide_eq_true (UInt32.le_trans (of_decide_eq_true hab) (of_decide_eq_true hbc))
      have htotal (a b : UInt32) : decide (a ≤ b) || decide (b ≤ a) := by
        simpa using UInt32.le_total a b
      exact (List.pairwise_mergeSort htrans htotal _).imp of_decide_eq_true
    · simp only [List.mem_mergeSort, List.mem_filterMap, Listed, hlist, Except.ok.injEq,
        Prod.exists]
      constructor
      · rintro ⟨name, e, hmem, hnumber⟩
        exact ⟨children, name, e, rfl, hmem, hnumber⟩
      · rintro ⟨_, name, e, rfl, hmem, hnumber⟩
        exact ⟨name, e, hmem, hnumber⟩

theorem find?_eq_some_of_sorted {cards : List SoundCard} {p : SoundCard → Bool} {c : SoundCard}
    (hsorted : cards.Pairwise fun x y => x.card ≤ y.card)
    (hsame : ∀ x ∈ cards, ∀ y ∈ cards, x.card = y.card → x = y) :
    cards.find? p = some c ↔
      c ∈ cards ∧ p c ∧ ∀ other ∈ cards, p other → c.card ≤ other.card := by
  induction cards with
  | nil => simp
  | cons x cards ih =>
    obtain ⟨hx, hsorted⟩ := List.pairwise_cons.mp hsorted
    by_cases hp : p x
    · rw [List.find?_cons_of_pos hp, Option.some_inj]
      constructor
      · rintro rfl
        refine ⟨List.mem_cons_self, hp, fun other hmem _ => ?_⟩
        obtain rfl | hmem := List.mem_cons.mp hmem
        · exact UInt32.le_refl _
        · exact hx other hmem
      · rintro ⟨hmem, -, hleast⟩
        obtain rfl | htail := List.mem_cons.mp hmem
        · rfl
        · have hle := hleast x List.mem_cons_self hp
          exact hsame x List.mem_cons_self c hmem (UInt32.le_antisymm (hx c htail) hle)
    · have hrest (other : SoundCard) (hother : p other) :
          other ∈ x :: cards ↔ other ∈ cards := by
        have hne : other ≠ x := fun h => hp (h ▸ hother)
        simp [hne]
      have hsame' (y : SoundCard) (hy : y ∈ cards) (z : SoundCard) (hz : z ∈ cards) :=
        hsame y (List.mem_cons_of_mem x hy) z (List.mem_cons_of_mem x hz)
      rw [List.find?_cons_of_neg hp, ih hsorted hsame']
      constructor
      · rintro ⟨hmem, hc, hleast⟩
        exact ⟨(hrest c hc).mpr hmem, hc, fun other hmem hother =>
          hleast other ((hrest other hother).mp hmem) hother⟩
      · rintro ⟨hmem, hc, hleast⟩
        exact ⟨(hrest c hc).mp hmem, hc, fun other hmem hother =>
          hleast other ((hrest other hother).mpr hmem) hother⟩

theorem mem_filterMap_probe {numbers : List UInt32} {c : SoundCard} :
    c ∈ numbers.filterMap (d.probe t) ↔ c.card ∈ numbers ∧ Supported d t c := by
  simp only [List.mem_filterMap, probe_eq_some]
  constructor
  · rintro ⟨n, hn, rfl, hc⟩
    exact ⟨hn, hc⟩
  · rintro ⟨hn, hc⟩
    exact ⟨c.card, hn, rfl, hc⟩

theorem find?_cards {numbers : List UInt32} (hsorted : numbers.Pairwise (· ≤ ·)) {serial : String}
    {c : SoundCard} :
    (numbers.filterMap (d.probe t)).find? (·.serial = some serial) = some c ↔
      c.card ∈ numbers ∧ Supported d t c ∧ c.serial = some serial ∧
        ∀ other : SoundCard, other.card ∈ numbers → Supported d t other →
          other.serial = some serial → c.card ≤ other.card := by
  have hprobe {x : SoundCard} (hx : x ∈ numbers.filterMap (d.probe t)) :
      d.probe t x.card = some x := probe_eq_some.mpr ⟨rfl, (mem_filterMap_probe.mp hx).2⟩
  rw [find?_eq_some_of_sorted (List.pairwise_filterMap.mpr ?_) fun x hx y hy h => ?_]
  · simp only [mem_filterMap_probe, decide_eq_true_eq, and_assoc, and_imp]
  · exact hsorted.imp fun hle x hx y hy => by
      rwa [(probe_eq_some.mp hx).1, (probe_eq_some.mp hy).1]
  · exact Option.some.inj ((hprobe hx).symm.trans (h ▸ hprobe hy))

theorem findSerial_eq_some {serial : String} {c : SoundCard} :
    d.findSerial t serial = some c ↔
      Listed d t c.card ∧ Supported d t c ∧ c.serial = some serial ∧
        ∀ other : SoundCard, Listed d t other.card → Supported d t other →
          other.serial = some serial → c.card ≤ other.card := by
  unfold findSerial enumerate
  cases hcards : CardFiles.cards t d.cardRoot with
  | error cause =>
    have hnone : ¬Listed d t c.card := by
      rintro ⟨children, name, e, hlist, -⟩
      rw [CardFiles.cards, hlist] at hcards
      cases hcards
    simp [hnone]
  | ok numbers =>
    obtain ⟨hsorted, hmem⟩ := mem_cards hcards
    simp only [find?_cards hsorted, hmem]

def texts (files : List (String × String)) : List (Path × FileEntry) :=
  files.map fun (name, text) => (name, .file (Text.Utf8.encode text))

/-- A card with a device behind a hub, and another device of the same number at the bus itself. -/
def hubTree : FileTree where
  root := .directory true [
    ("asound", .directory true [
      ("card1", .directory true (texts [("usbid", "1235:821d"), ("usbbus", "1/5")]))]),
    ("devices", .directory true [
      ("usb1", .directory true [
        ("1-2", .directory true (texts [("devnum", "5"), ("serial", "NEAR")])),
        ("1-1", .directory true [
          ("1-1.4", .directory false (texts [("devnum", "5\n"), ("serial", " FAR 2")]))])])])]
  here := []

def hubDiscovery : Discovery where
  cardRoot := "/asound"
  usbRoot := "/devices"
  socketDirectories := []

theorem plain_texts {files : List (String × String)} {listable : Bool}
    (h : FileEntry.Listing (texts files)) : Plain (.directory listable (texts files)) := by
  constructor
  · refine FileEntry.wellNamed_directory h fun entry hentry => ?_
    obtain ⟨file, -, rfl⟩ := List.mem_map.mp hentry
    exact FileEntry.wellNamed_file _
  · refine FileEntry.linkless_directory fun entry hentry => ?_
    obtain ⟨file, -, rfl⟩ := List.mem_map.mp hentry
    exact FileEntry.linkless_file _

theorem plain_directory {listable : Bool} {children : List (Path × FileEntry)}
    (hlisting : FileEntry.Listing children) (h : ∀ entry ∈ children, Plain entry.2) :
    Plain (.directory listable children) :=
  ⟨FileEntry.wellNamed_directory hlisting fun entry hentry => (h entry hentry).wellNamed,
    FileEntry.linkless_directory fun entry hentry => (h entry hentry).linkless⟩

theorem plain_entry (h : Plain t.root) (hentry : t.entry path = .ok start) : Plain start := by
  obtain ⟨names, -, hdescend⟩ := exists_of_bind hentry
  exact ⟨h.wellNamed.descend hdescend, h.linkless.descend hdescend⟩

theorem plain_hubTree : Plain hubTree.root := by
  refine plain_directory (by decide)
    (List.forall_mem_cons.mpr ⟨?asound, List.forall_mem_singleton.mpr ?devices⟩)
  case asound =>
    exact plain_directory (by decide) (List.forall_mem_singleton.mpr (plain_texts (by decide)))
  case devices =>
    refine plain_directory (by decide) (List.forall_mem_singleton.mpr ?_)
    refine plain_directory (by decide)
      (List.forall_mem_cons.mpr ⟨plain_texts (by decide), List.forall_mem_singleton.mpr ?_⟩)
    exact plain_directory (by decide) (List.forall_mem_singleton.mpr (plain_texts (by decide)))

theorem firstPort_hubTree : ∃ start, hubTree.entry (hubDiscovery.busDirectory 1) = .ok start ∧
    FirstPort 1 5 (hubDiscovery.busDirectory 1) start ["1-1", "1-1.4"]
      (texts [("devnum", "5\n"), ("serial", " FAR 2")]) := by
  refine ⟨_, rfl, ⟨?_, ?_, by decide⟩, fun other below hother => ?_⟩
  · exact .down (List.mem_cons_of_mem _ List.mem_cons_self) (by decide)
      (.down List.mem_cons_self (by decide) (.here _ _))
  · exact ⟨_, "5\n", rfl, Text.Utf8.decode?_eq_some_iff.mpr rfl, by decide⟩
  · obtain ⟨-, -, -, _, _, hnone, -⟩ | ⟨name, e, rest, rfl, -, hmem, -, hport⟩ :=
      isPort_directory.mp hother
    · cases hnone
    obtain hnear | hmem := List.mem_cons.mp hmem
    · cases hnear
      exact List.cons_le_cons_iff.mpr (.inl (by decide))
    cases List.mem_singleton.mp hmem
    refine List.cons_le_cons_iff.mpr (.inr ⟨rfl, ?_⟩)
    obtain ⟨-, -, -, _, _, hnone, -⟩ | ⟨name, e, rest, rfl, -, hmem, -⟩ := isPort_directory.mp hport
    · cases hnone
    · cases List.mem_singleton.mp hmem
      exact List.cons_le_cons_iff.mpr (.inr ⟨rfl, List.nil_le _⟩)

/-- All ways down a tree through child directories whose names begin with a mark. -/
inductive Reaches (mark : Bytes) : FileEntry → List Path → List (Path × FileEntry) → Prop
  | here (listable : Bool) (children : List (Path × FileEntry)) :
      Reaches mark (.directory listable children) [] children
  | down {listable : Bool} {children below : List (Path × FileEntry)} {name : Path}
      {e : FileEntry} {way : List Path} (hmem : (name, e) ∈ children)
      (hmark : mark <+: name.bytes) (hway : Reaches mark e way below) :
      Reaches mark (.directory listable children) (name :: way) below

/-- Below the directory of bus 1 there is one with the number 5, and it is not found. -/
def Overlooked (d : Discovery) (t : FileTree) : Prop :=
  ∃ start way children, t.entry (d.busDirectory 1) = .ok start ∧ Plain start ∧
    Reaches (Text.Utf8.encode "1-") start way children ∧ HasNumber children 5 ∧
    findPort t (portMark 1) 5 levelMax (d.busDirectory 1) = none

theorem overlooked {way : List Path} {children : List (Path × FileEntry)}
    (hentry : t.entry (d.busDirectory 1) = .ok start) (hstart : Plain start)
    (hreaches : Reaches (Text.Utf8.encode "1-") start way children) (hnumber : HasNumber children 5)
    (hnone : ∀ way children, ¬IsPort (portMark 1) 5 (d.busDirectory 1) start way children) :
    Overlooked d t := by
  refine ⟨start, way, children, hentry, hstart, hreaches, hnumber, ?_⟩
  rw [← Option.not_isSome_iff_eq_none,
    isSome_findPort (d.busDirectory_ne_empty 1) fun found h => ?_]
  · rintro ⟨_, way, children, hfound, hport⟩
    cases hentry.symm.trans hfound
    exact hnone way children hport
  · cases hentry.symm.trans h
    exact hstart

def busTree (children : List (Path × FileEntry)) : FileTree :=
  ⟨.directory true [("sys", .directory true [("usb1", .directory true children)])], []⟩

def nearDiscovery : Discovery := { usbRoot := "sys", socketDirectories := [] }

/-- The same place, by a path that is too long for the files in the directory of a bus. -/
def farDiscovery : Discovery := { usbRoot := .dotted 2041 "sys", socketDirectories := [] }

def numbered : FileEntry := .directory true (texts [("devnum", "5")])

theorem plain_numbered : Plain numbered := plain_texts (by decide)

theorem hasNumber_numbered : HasNumber (texts [("devnum", "5")]) 5 :=
  ⟨_, "5", rfl, Text.Utf8.decode?_eq_some_iff.mpr rfl, by decide⟩

theorem length_farDiscovery : (farDiscovery.busDirectory 1).bytes.length = 4090 := by
  have hslash : farDiscovery.usbRoot.endsInSlash = false :=
    Path.endsInSlash_dotted 2041 (by decide)
  have hempty : farDiscovery.usbRoot ≠ .empty := Path.dotted_ne_empty 2041 (by decide)
  have hname : Path.IsName "usb1" := by decide
  have hdirectory : farDiscovery.busDirectory 1 = farDiscovery.usbRoot.join "usb1" := rfl
  rw [hdirectory, Path.length_join hname hempty hslash, farDiscovery, Path.length_dotted]
  rfl

theorem entry_farDiscovery (children : List (Path × FileEntry)) :
    (busTree children).entry (farDiscovery.busDirectory 1) = .ok (.directory true children) := by
  have hroot : (busTree children).entry farDiscovery.usbRoot =
      .ok (.directory true [("usb1", .directory true children)]) := by
    rw [farDiscovery,
      FileTree.entry_dotted 2041 rfl (by decide) (by decide) (by decide) (by decide)]
    rfl
  have hbus : FileTree.withinLimit (farDiscovery.busDirectory 1) := by
    rw [FileTree.withinLimit, length_farDiscovery]
    decide
  have hdirectory : farDiscovery.busDirectory 1 = farDiscovery.usbRoot.join "usb1" := rfl
  rw [hdirectory] at hbus ⊢
  rw [FileTree.entry_join hroot (by decide) fun target => ?_, if_pos hbus]
  · rfl
  · simp

end Discovery

end CardFirmware
