import CodeStyle.Analysis.Discovery
import CodeStyle.Proofs.Disk.Follow
import CodeStyle.Proofs.Disk.Read
import CodeStyle.Proofs.Disk.Sorted
import CodeStyle.Proofs.Path

/-!
# What discovery finds

The folders of a disk are sorted by name, and entries come in this order, those of a folder where
the folder stands. The files below a folder are then found in the order of their paths. The two
orders agree although names are compared by characters and paths by components, because all paths
below a folder begin with the components of its path.
-/
namespace CodeStyle

open CodeStyle.Path (IsName)

namespace Entry

/-- Whether all names that lead from some entries to regular files are ones that an entry can
have. -/
def HaveNames (entries : List Entry) : Prop :=
  ∀ names e, below? entries names = some e → e.isRegular = true → ∀ n ∈ names, IsName n

theorem haveNames_of_forall {entries : List Entry}
    (h : ∀ e ∈ entries, IsName e.name ∧ HaveNames e.entries) : HaveNames entries := by
  intro names f hf hregular
  cases names with
  | nil => nofun
  | cons name rest =>
    rw [below?] at hf
    cases hfind : entries.find? (·.name == name) with
    | none => simp [hfind] at hf
    | some e =>
      obtain ⟨hname, hentries⟩ := h e (List.mem_of_find?_eq_some hfind)
      obtain rfl : e.name = name := by simpa using List.find?_some hfind
      refine List.forall_mem_cons.mpr ⟨hname, ?_⟩
      cases rest with
      | nil => nofun
      | cons second rest => exact hentries _ f (by simpa [hfind] using hf) hregular

/-- Entries that hold no others only need names themselves. -/
theorem haveNames_of_forall_isEmpty {entries : List Entry}
    (h : ∀ e ∈ entries, IsName e.name ∧ e.entries.isEmpty = true) : HaveNames entries := by
  have hnone : HaveNames [] := haveNames_of_forall nofun
  refine haveNames_of_forall fun e he => ?_
  obtain ⟨hname, hempty⟩ := h e he
  rw [List.isEmpty_iff] at hempty
  exact ⟨hname, hempty ▸ hnone⟩

/-- Whether an entry at a path is a folder that can be listed. -/
def isListable (path : String) : Entry → Bool
  | folder _ _ => !Disk.isTooLong path
  | _ => false

/-- Whether names lead from an entry at a path through folders that can all be listed. -/
def isListed (path : String) (e : Entry) : List String → Bool
  | [] => true
  | name :: rest =>
    e.isListable path && match e.entries.find? (·.name == name) with
      | some inner => inner.isListed (Path.join path name) rest
      | none => false

/-- What is found at an entry is the entry itself, or it is found in the entry as a folder. -/
theorem mem_regularFiles_iff {path : String} {e : Entry} {names : List String} :
    names ∈ e.regularFiles path ↔ (e.isRegular = true ∧ names = []) ∨
      (e.isListable path = true ∧ names ∈ regularFilesIn path e.entries) := by
  cases e with
  | folder name entries =>
    cases hlong : Disk.isTooLong path <;>
      simp [regularFiles, isRegular, isListable, Entry.entries, hlong]
  | _ => simp [regularFiles, isRegular, isListable]

theorem mem_regularFilesIn_iff_exists {path : String} {entries : List Entry}
    {names : List String} : names ∈ regularFilesIn path entries ↔
      ∃ e ∈ entries, ∃ rest ∈ e.regularFiles (Path.join path e.name), names = e.name :: rest := by
  induction entries with
  | nil => simp [regularFilesIn]
  | cons e entries ih => simp [regularFilesIn, ih, eq_comm]

/-- The files that are found in a sorted folder are those regular files to which names lead through
folders that can be listed. -/
theorem mem_regularFilesIn_iff {path : String} {e : Entry} {names : List String}
    (h : areSorted e.entries = true) :
    e.isListable path = true ∧ names ∈ regularFilesIn path e.entries ↔
      e.isListed path names = true ∧
        ∃ f, below? e.entries names = some f ∧ f.isRegular = true := by
  -- The induction is on the names, since each of them leads to another folder.
  induction names generalizing path e with
  | nil => simp [mem_regularFilesIn_iff_exists, below?, isRegular]
  | cons name rest ih =>
    have hcons : name :: rest ∈ regularFilesIn path e.entries ↔
        ∃ inner, e.entries.find? (·.name == name) = some inner ∧
          rest ∈ inner.regularFiles (Path.join path name) := by
      simp only [mem_regularFilesIn_iff_exists, find?_name_eq_some_iff h, List.cons.injEq]
      constructor
      · rintro ⟨inner, hinner, _, hmem, rfl, rfl⟩
        exact ⟨inner, ⟨hinner, rfl⟩, hmem⟩
      · rintro ⟨inner, ⟨hinner, rfl⟩, hmem⟩
        exact ⟨inner, hinner, rest, hmem, rfl, rfl⟩
    rw [hcons, below?, isListed, Bool.and_eq_true, and_assoc]
    refine and_congr_right fun _ => ?_
    cases hfind : e.entries.find? (·.name == name) with
    | none => simp
    | some inner =>
      have hinner := @ih (Path.join path name) inner (areSorted_of_find?_eq_some h hfind)
      cases rest with
      | nil =>
        have hnone : ¬ ∃ f, below? inner.entries [] = some f ∧ f.isRegular = true := by
          simp [below?, isRegular]
        simp [mem_regularFiles_iff, hinner, hnone, isListed]
      | cons second rest => simp [mem_regularFiles_iff, hinner]

/-- Names that lead to an entry end in its name. -/
theorem getLast?_of_below?_eq_some {e : Entry} {entries : List Entry} {names : List String}
    (hnames : names ≠ []) (h : below? entries names = some e) : names.getLast? = some e.name := by
  induction names generalizing entries with
  | nil => contradiction
  | cons name rest ih =>
    rw [below?] at h
    cases hfind : entries.find? (·.name == name) with
    | none => simp [hfind] at h
    | some found =>
      have hname : found.name = name := by simpa using List.find?_some hfind
      cases rest with
      | nil =>
        obtain rfl : found = e := by simpa [hfind] using h
        simp [hname]
      | cons second rest =>
        have hbelow : below? found.entries (second :: rest) = some e := by simpa [hfind] using h
        rw [List.getLast?_cons_cons]
        exact ih (List.cons_ne_nil _ _) hbelow

/-- Names in front of other names, by the order of paths. -/
def namesLess (a b : List String) : Prop :=
  Path.compareParts (a.map .name) (b.map .name) = .lt

theorem namesLess_cons_cons {name : String} {a b : List String} :
    namesLess (name :: a) (name :: b) ↔ namesLess a b := by
  have hpair := Path.compareParts_append_left [.name name] (a.map .name) (b.map .name)
  simp only [namesLess, List.map_cons]
  rw [← hpair]
  rfl

theorem namesLess_of_lt {m n : String} {a b : List String} (h : m < n) :
    namesLess (m :: a) (n :: b) := by
  simp only [namesLess, List.map_cons, Path.compareParts, PathPart.compare_name_eq_lt h]
  rfl

mutual

theorem pairwise_regularFiles (path : String) : ∀ {e : Entry}, e.isSorted = true →
    (e.regularFiles path).Pairwise namesLess
  | folder _ _, h => by
    rw [regularFiles]
    split
    · exact .nil
    · exact pairwise_regularFilesIn path h
  | file _ _, _ => List.pairwise_singleton _ _
  | locked _, _ => List.pairwise_singleton _ _
  | device _, _ => .nil
  | link _ _, _ => .nil
  | closed _ _, _ => .nil

/-- The files of a sorted folder come in the order of their paths. -/
theorem pairwise_regularFilesIn (path : String) :
    ∀ {entries : List Entry}, areSorted entries = true →
      (regularFilesIn path entries).Pairwise namesLess
  | [], _ => .nil
  | e :: rest, h => by
    obtain ⟨hless, he, hrest⟩ := areSorted_cons_iff.mp h
    rw [regularFilesIn, List.pairwise_append]
    refine ⟨?_, pairwise_regularFilesIn path hrest, ?_⟩
    · refine List.pairwise_map.mpr ((pairwise_regularFiles _ he).imp ?_)
      intro a b hab
      exact namesLess_cons_cons.mpr hab
    · intro a ha b hb
      obtain ⟨a, -, rfl⟩ := List.mem_map.mp ha
      obtain ⟨f, hf, b, -, rfl⟩ := mem_regularFilesIn_iff_exists.mp hb
      exact namesLess_of_lt (hless f hf)

end

end Entry

namespace Disk

theorem parts_pathOf {names : List String} (root : String) (h : ∀ name ∈ names, IsName name) :
    Path.parts (pathOf root names) = Path.parts root ++ names.map .name := by
  induction names generalizing root with
  | nil => simp [pathOf]
  | cons name names ih =>
    obtain ⟨hname, hnames⟩ := List.forall_mem_cons.mp h
    calc Path.parts (pathOf root (name :: names))
        = Path.parts (Path.join root name) ++ names.map .name := ih _ hnames
      _ = Path.parts root ++ (name :: names).map .name := by
        rw [Path.parts_join root hname, List.append_assoc]
        rfl

theorem eq_of_pathOf_eq {root : String} {a b : List String} (ha : ∀ name ∈ a, IsName name)
    (hb : ∀ name ∈ b, IsName name) (h : pathOf root a = pathOf root b) : a = b := by
  have hparts : a.map PathPart.name = b.map PathPart.name := by
    rw [← List.append_cancel_left_eq (Path.parts root), ← parts_pathOf root ha,
      ← parts_pathOf root hb, h]
  exact List.map_injective_iff.mpr (fun _ _ => PathPart.name.inj) hparts

/-- Paths below the same folder compare by the names behind it. -/
theorem compare_pathOf_eq_lt_iff {a b : List String} (root : String)
    (ha : ∀ name ∈ a, IsName name) (hb : ∀ name ∈ b, IsName name) :
    Path.compare (pathOf root a) (pathOf root b) = .lt ↔ Entry.namesLess a b := by
  rw [Path.compare, parts_pathOf root ha, parts_pathOf root hb, Path.compareParts_append_left,
    Entry.namesLess]

/-- Whether a name is that of a file to check: it ends in one of three extensions, in any case of
letters. -/
def HasKnownExtension (name : String) : Prop :=
  ∃ extension, Path.extensionOf? name = some extension ∧
    extension.map Char.toLower ∈ ["java", "c", "h"]

/-- The last name behind a folder decides on the language. -/
theorem isSome_ofPath?_iff {root name : String} {front : List String}
    (h : ∀ n ∈ front ++ [name], IsName n) :
    (Language.ofPath? (pathOf root (front ++ [name]))).isSome = true ↔ HasKnownExtension name := by
  have hparts : Path.parts (pathOf root (front ++ [name])) =
      (Path.parts root ++ front.map .name) ++ [.name name] := by
    rw [parts_pathOf root h, List.map_append, List.append_assoc]
    rfl
  have hextension : Path.extension? (pathOf root (front ++ [name])) = Path.extensionOf? name := by
    rw [Path.extension?, Path.fileName?_of_parts hparts]
    rfl
  rw [Language.ofPath?, hextension, HasKnownExtension]
  cases Path.extensionOf? name with
  | none => simp
  | some extension => simpa using Language.isSome_ofExtension?_iff

section Start

variable {d : Disk} {root : String}

/-- Discovery starts at what the path leads to. -/
theorem find_of_startEntry?_eq_some {e : Entry} (h : d.startEntry? root = some e) :
    d.find true root = .ok e := by
  unfold startEntry? at h
  split at h
  · split at h
    · rename_i found hfind
      obtain ⟨-, rfl⟩ : found.isFolder = true ∧ found = e := by simpa using h
      exact hfind
    · contradiction
  · rename_i start hlink hfind
    obtain rfl := Option.some.inj h
    rcases find_false_cases d root with hsame | ⟨name, target, hother⟩
    · rw [← hsame, hfind]
    · rw [hfind] at hother
      exact absurd (Except.ok.inj hother) (hlink name target)
  · contradiction

/-- A path that leads to a folder, be it through links or not, is where discovery starts. -/
theorem startEntry?_eq_some_of_find {e : Entry} (h : d.find true root = .ok e)
    (hfolder : e.isFolder = true) : d.startEntry? root = some e := by
  unfold startEntry?
  rcases find_false_cases d root with hsame | ⟨link, target, hlink⟩
  · rw [hsame, h]
    cases e with
    | link name target => contradiction
    | _ => rfl
  · simp [hlink, h, hfolder]

/-- There is nothing to check for a path that leads nowhere. -/
theorem filesUnder_eq_nil (filter : PathFilter) (h : ∀ e, d.find true root ≠ .ok e) :
    d.filesUnder filter root = [] := by
  have hfile : d.isFile root = false := by
    unfold isFile
    cases hfind : d.find true root with
    | ok e => exact absurd hfind (h e)
    | error fault => rfl
  have hstart : d.startEntry? root = none := by
    cases hstart : d.startEntry? root with
    | none => rfl
    | some e => exact absurd (find_of_startEntry?_eq_some hstart) (h e)
  simp [filesUnder, hfile, discover, hstart]

end Start

/-- The files below a folder that discovery wants, by the names that lead to them. -/
theorem isWanted_iff {root : String} {e : Entry} {entries : List Entry} {names : List String}
    (filter : PathFilter) (hnames : Entry.HaveNames entries)
    (he : Entry.below? entries names = some e) (hregular : e.isRegular = true) :
    isWanted filter root names = true ↔
      HasKnownExtension e.name ∧ filter.selects (String.intercalate "/" names) = true := by
  have hne : names ≠ [] := by
    rintro rfl
    obtain rfl : Entry.folder "" entries = e := by simpa [Entry.below?] using he
    contradiction
  have hlast : names.getLast? = some e.name := Entry.getLast?_of_below?_eq_some hne he
  obtain ⟨front, hfront⟩ := List.getLast?_eq_some_iff.mp hlast
  have hall : ∀ n ∈ front ++ [e.name], IsName n := hfront ▸ hnames _ _ he hregular
  rw [isWanted, Bool.and_eq_true, hfront, isSome_ofPath?_iff hall]

/-- Discovery finds the wanted files below a folder of a sorted disk to which it gets through folders
that can be listed, each once and in the order of the paths. -/
theorem discover_folder {d : Disk} {root : String} {e : Entry} (filter : PathFilter)
    (hsorted : d.IsSorted) (hroot : d.find true root = .ok e) (hfolder : e.isFolder = true)
    (hnames : Entry.HaveNames e.entries) :
    (∀ path, path ∈ d.discover filter root ↔
      ∃ names file, Entry.below? e.entries names = some file ∧ file.isRegular = true ∧
        e.isListed root names = true ∧ path = pathOf root names ∧
          HasKnownExtension file.name ∧ filter.selects (String.intercalate "/" names) = true) ∧
    (d.discover filter root).Pairwise (fun a b => Path.compare a b = .lt) ∧
    (d.discover filter root).Nodup := by
  have hentries : Entry.areSorted e.entries = true := hsorted.areSorted_of_find_eq_ok hroot
  have hdiscover : d.discover filter root =
      ((e.regularFiles root).filter (isWanted filter root)).map (pathOf root) := by
    rw [discover, startEntry?_eq_some_of_find hroot hfolder]
  have hregular : e.isRegular = false := by
    cases e with
    | folder | closed => rfl
    | _ => contradiction
  have hmem {names : List String} : names ∈ e.regularFiles root ↔ e.isListed root names = true ∧
      ∃ file, Entry.below? e.entries names = some file ∧ file.isRegular = true := by
    rw [Entry.mem_regularFiles_iff, Entry.mem_regularFilesIn_iff hentries, hregular]
    simp
  have hpairwise : (d.discover filter root).Pairwise (fun a b => Path.compare a b = .lt) := by
    rw [hdiscover, List.pairwise_map]
    have hself : e.isSorted = true := e.isSorted_eq_areSorted_entries.trans hentries
    have hfiles := (Entry.pairwise_regularFiles root hself).filter (isWanted filter root)
    refine hfiles.imp_of_mem fun {a b} ha hb hless => ?_
    obtain ⟨-, file, hfile, hfileRegular⟩ := hmem.mp (List.mem_filter.mp ha).1
    obtain ⟨-, other, hother, hotherRegular⟩ := hmem.mp (List.mem_filter.mp hb).1
    exact (compare_pathOf_eq_lt_iff root (hnames _ _ hfile hfileRegular)
      (hnames _ _ hother hotherRegular)).mpr hless
  refine ⟨fun path => ?_, hpairwise, hpairwise.imp fun {a b} hless hab => ?_⟩
  · rw [hdiscover]
    simp only [List.mem_map, List.mem_filter]
    constructor
    · rintro ⟨names, ⟨hfound, hwanted⟩, rfl⟩
      obtain ⟨hlisted, file, hfile, hregular⟩ := hmem.mp hfound
      obtain ⟨hextension, hselected⟩ := (isWanted_iff filter hnames hfile hregular).mp hwanted
      exact ⟨names, file, hfile, hregular, hlisted, rfl, hextension, hselected⟩
    · rintro ⟨names, file, hfile, hregular, hlisted, rfl, hextension, hselected⟩
      have hwanted : isWanted filter root names = true :=
        (isWanted_iff filter hnames hfile hregular).mpr ⟨hextension, hselected⟩
      exact ⟨names, ⟨hmem.mpr ⟨hlisted, file, hfile, hregular⟩, hwanted⟩, rfl⟩
  · have hsame : Path.compare b b = .eq := Std.ReflCmp.compare_self
    rw [hab, hsame] at hless
    contradiction

section Nested

/-- A folder, a file whose name starts like that of the folder, a link to the folder, a folder that
may not be listed and a file that may not be read. -/
def nestedEntries : List Entry :=
  [.folder "a" [.file "B.JAVA" (.bytes []), .file "notes.md" (.bytes [])], .file "a.c" (.bytes []),
    .link "b" "a", .closed "c" [.file "D.java" (.bytes [])], .locked "e.h"]

def nestedDisk : Disk := ⟨[.folder "src" nestedEntries]⟩

theorem haveNames_nestedEntries : Entry.HaveNames nestedEntries := by
  have hnone : Entry.HaveNames [] := Entry.haveNames_of_forall_isEmpty nofun
  have hfolder : Entry.HaveNames [.file "B.JAVA" (.bytes []), .file "notes.md" (.bytes [])] :=
    Entry.haveNames_of_forall_isEmpty (by decide)
  have hclosed : Entry.HaveNames [.file "D.java" (.bytes [])] :=
    Entry.haveNames_of_forall_isEmpty (by decide)
  refine Entry.haveNames_of_forall ?_
  simpa [nestedEntries, Entry.name, Entry.entries, hnone, hfolder, hclosed] using by decide

/-- Both sources are found, the one in the folder first, and so is the header that may not be read. The
source in the folder that may not be listed is not. -/
theorem discover_nestedDisk :
    nestedDisk.IsSorted ∧ nestedDisk.find true "src" = .ok (.folder "src" nestedEntries) ∧
      Entry.isFolder (.folder "src" nestedEntries) = true ∧ Entry.HaveNames nestedEntries ∧
      pathOf "src" ["a", "B.JAVA"] ∈ nestedDisk.discover { } "src" ∧
      pathOf "src" ["a.c"] ∈ nestedDisk.discover { } "src" ∧
      pathOf "src" ["e.h"] ∈ nestedDisk.discover { } "src" ∧
      pathOf "src" ["c", "D.java"] ∉ nestedDisk.discover { } "src" ∧
      (nestedDisk.discover { } "src").Pairwise fun a b => Path.compare a b = .lt := by
  have hfind : nestedDisk.find true "src" = .ok (.folder "src" nestedEntries) :=
    find_eq_ok_of_entry (by decide) (by decide) rfl fun _ _ => Entry.noConfusion
  have hsorted : nestedDisk.IsSorted := by decide
  have hnames : Entry.HaveNames nestedEntries := haveNames_nestedEntries
  obtain ⟨hmem, hpairwise, -⟩ := discover_folder { } hsorted hfind rfl hnames
  refine ⟨hsorted, hfind, rfl, hnames, (hmem _).mpr ?_, (hmem _).mpr ?_, (hmem _).mpr ?_,
    fun hfound => ?_, hpairwise⟩
  · exact ⟨_, _, rfl, rfl, by decide +kernel, rfl, ⟨"JAVA", by decide, by decide +kernel⟩, rfl⟩
  · exact ⟨_, _, rfl, rfl, by decide +kernel, rfl, ⟨"c", by decide, by decide +kernel⟩, rfl⟩
  · exact ⟨_, _, rfl, rfl, by decide +kernel, rfl, ⟨"h", by decide, by decide +kernel⟩, rfl⟩
  · obtain ⟨names, file, hfile, hregular, hlisted, hpath, -⟩ := (hmem _).mp hfound
    obtain rfl : ["c", "D.java"] = names :=
      eq_of_pathOf_eq (by decide) (hnames _ _ hfile hregular) hpath
    have hclosed : Entry.isListed "src" (.folder "src" nestedEntries) ["c", "D.java"] = false := by
      decide +kernel
    rw [hclosed] at hlisted
    contradiction

end Nested

section Dots

/-- The working directory as a path of dots. -/
def dots (n : Nat) : String := "/".intercalate (List.replicate (n + 1) ".")

theorem steps_dots (n : Nat) : steps (dots n) = List.replicate (n + 1) "." := by
  have hpieces : Path.pieces (dots n) = List.replicate (n + 1) "." := by
    refine Path.pieces_intercalate (fun name hname => ?_) (by simp)
    rw [List.eq_of_mem_replicate hname]
    decide
  rw [steps, hpieces, List.replicate_succ]
  rfl

theorem utf8ByteSize_dots (n : Nat) : (dots n).utf8ByteSize = 2 * n + 1 := by
  induction n with
  | zero => rfl
  | succ n ih =>
    have hmore : dots (n + 1) = "." ++ "/" ++ dots n := by
      simp [dots, List.replicate_succ, String.intercalate_cons_cons]
    have hpiece : ("." ++ "/").utf8ByteSize = 2 := rfl
    rw [hmore, String.utf8ByteSize_append, hpiece, ih]
    omega

theorem follow_dots {d : Disk} {lastLink : Bool} (links n : Nat) :
    d.follow lastLink false links [] (List.replicate n ".") = .ok [] := by
  induction n with
  | zero => simp [follow]
  | succ n ih =>
    have hfolder : d.IsFolderAt [] := ⟨_, rfl, rfl⟩
    rw [List.replicate_succ, follow_dot hfolder (.inr rfl), ih]

theorem find_dots (d : Disk) {n : Nat} (h : n < 2048) :
    d.find true (dots n) = .ok (.folder "" d.entries) := by
  have hlong : isTooLong (dots n) = false := by
    simp [isTooLong, utf8ByteSize_dots]
    omega
  have hempty : dots n ≠ "" := by
    intro hempty
    have hsize := utf8ByteSize_dots n
    simp [hempty] at hsize
  simp [find, route, hlong, hempty, steps_dots, follow_dots, Entry.below?]

theorem isTooLong_join_dots {n : Nat} {name : String} (h : 4095 < 2 * n + 1 + name.utf8ByteSize) :
    isTooLong (Path.join (dots n) name) = true := by
  rw [isTooLong, decide_eq_true_eq, Path.join]
  split <;> simp only [String.utf8ByteSize_append, utf8ByteSize_dots] <;> omega

/-- A file in a folder. -/
def oneFolderDisk : Disk := ⟨[.folder "folder" [.file "A.java" (.bytes [0xff])]]⟩

/-- The working directory can be listed at a path of that many dots, but the path of the folder in it
is too long. -/
theorem discover_oneFolderDisk :
    oneFolderDisk.IsSorted ∧
      oneFolderDisk.find true (dots 2045) = .ok (.folder "" oneFolderDisk.entries) ∧
      Entry.HaveNames oneFolderDisk.entries ∧
      Entry.below? oneFolderDisk.entries ["folder", "A.java"] = some (.file "A.java" (.bytes [0xff])) ∧
      HasKnownExtension "A.java" ∧ PathFilter.default.selects "folder/A.java" = true ∧
      oneFolderDisk.discover .default (dots 2045) = [] := by
  have hfind : oneFolderDisk.find true (dots 2045) = .ok (.folder "" oneFolderDisk.entries) :=
    find_dots _ (by decide)
  have hlong : isTooLong (Path.join (dots 2045) "folder") = true := isTooLong_join_dots (by decide)
  have hinner : Entry.HaveNames [.file "A.java" (.bytes [0xff])] :=
    Entry.haveNames_of_forall_isEmpty (by decide)
  have hnames : Entry.HaveNames oneFolderDisk.entries := Entry.haveNames_of_forall (by
    simpa [oneFolderDisk, Entry.name, Entry.entries, hinner] using by decide)
  refine ⟨by decide, hfind, hnames, rfl, ⟨"java", by decide, by decide +kernel⟩,
    by decide +kernel, ?_⟩
  rw [discover, startEntry?_eq_some_of_find hfind rfl]
  simp [oneFolderDisk, Entry.regularFiles, Entry.regularFilesIn, Entry.name, hlong]

end Dots

end Disk

end CodeStyle
