import Anbox.Application.LauncherStorage
import Anbox.Foundation.OrderedMap
import Anbox.Foundation.Runs
import Mathlib.Data.Finset.Card
import Mathlib.Data.Finset.Image
import Mathlib.Logic.Function.Basic

/-!
# Launcher files

The application database has a desktop entry and an icon on the disk for each
of its packages.  Their names are made of the package, in which each dot is
replaced by a hyphen.  So two packages may have the same files.  A package may
also contain a slash, which leads into another directory, or a NUL, at which a
system call cuts the path.

No component of such a path has a dot alone or two, as the dots of a package
are gone, so that nothing is ever changed outside the launcher directory.
-/

namespace Anbox.Application.LauncherFiles

open Std
open Anbox.Application.LauncherStorage
open Anbox.Bridge.ApplicationList
open Anbox.Foundation.Framing (Outcome)
open Anbox.Foundation.OrderedMap
open Anbox.Foundation.PathResolution
open Anbox.Foundation.Runs
open Anbox.Foundation.SeparatedText
open Anbox.Lxc.PathNames

/-! ## Files -/

def nul : Char := Char.ofNat 0

/-- What a system call sees of a path. -/
def cString (path : Path) : Path := path.takeWhile (· ≠ nul)

/-- A place in the file system, the last component first. -/
abbrev Place := List Path

def placeOf (path : Path) : Place := resolve (cString path)

/-- The contents of the regular files; there are no symbolic links. -/
abbrev Files := Place → Option (List UInt8)

/-- The process and its launcher directory. -/
structure Setup where
  environment : Environment
  directory : Path
  noNul : nul ∉ directory

inductive Kind where
  | desktop
  | png
deriving DecidableEq, Repr

def Kind.extension : Kind → Path
  | .desktop => ".desktop".toList
  | .png => ".png".toList

/-- With this the names of all launcher files start. -/
def nameStart : Path := "anbox-".toList

def fileName (kind : Kind) (stem : Path) : Path :=
  nameStart ++ stem ++ kind.extension

def Setup.root (setup : Setup) : Place := resolve setup.directory

/-- The place of a file right in the launcher directory. -/
def Setup.place (setup : Setup) (kind : Kind) (stem : Path) : Place :=
  fileName kind stem :: setup.root

/-- The bytes of a text. -/
def encoded (text : Text) : List UInt8 :=
  (String.ofList text).toUTF8.toList

/-- What is written for an item. -/
def Setup.content (setup : Setup) (item : Item) :
    Kind → List UInt8
  | .desktop =>
      encoded (desktopItem setup.environment setup.directory item)
  | .png => item.icon

/-! ## The launcher storage -/

/-- `clean_package_name`. -/
def stemOf (package : String) : Path := cleanPackageName package.toList

/-- Where the two files of a package are. -/
def Setup.target (setup : Setup) (package : String) : Kind → Place
  | .desktop => placeOf (pathForItem setup.directory (stemOf package))
  | .png => placeOf (pathForItemIcon setup.directory (stemOf package))

/-- Write or remove the desktop entry of a package, and then the icon. -/
def Setup.setPair (setup : Setup) (files : Files) (package : String)
    (contents : Kind → Option (List UInt8)) : Files :=
  let files :=
    Function.update files (setup.target package .desktop)
      (contents .desktop)
  Function.update files (setup.target package .png) (contents .png)

/-- `reset`, `add_or_update` and `remove`, all of which succeed. -/
def Setup.perform (setup : Setup) (files : Files) : StorageCall → Files
  | .reset => fun place =>
      match place with
      | [] => files []
      | name :: directory =>
          if directory = setup.root ∧ nameStart <+: name then none
          else files (name :: directory)
  | .addOrUpdate item =>
      setup.setPair files item.package fun kind =>
        some (setup.content item kind)
  | .remove package => setup.setPair files package fun _ => none

structure System where
  database : Database
  /-- The items that were stored last. -/
  latest : String → Option Item

def System.initial : System := ⟨.initial, fun _ => none⟩

/-- The files that the calls of the storage have made of those at first. -/
def System.files (system : System) (setup : Setup) (start : Files) :
    Files :=
  system.database.storage.foldl setup.perform start

def noFailure : StorageFails := fun _ _ => false

/-- The calls of the database; the skeleton stores no unnamed package. -/
inductive Call where
  | storeOrUpdate (item : Item) (named : item.package ≠ "")
  | remove (package : String)

def step (system : System) : Call → System
  | .storeOrUpdate item named =>
      { database := (storeOrUpdate noFailure system.database item named).state
        latest := Function.update system.latest item.package (some item) }
  | .remove package =>
      { system with
        database := (remove noFailure system.database package).state }

/-! ## What is meant -/

/--
Each package has two launcher files with a stem of its own, and there are no
others.  Outside the launcher directory everything is as it was at first.
-/
structure MirrorsBy (setup : Setup) (start files : Files)
    (items : TreeMap String Item) (latest : String → Option Item)
    (stem : String → Path) : Prop where
  distinct :
    ∀ first ∈ items, ∀ second ∈ items,
      stem first = stem second → first = second
  pairs :
    ∀ package ∈ items, ∃ item, latest package = some item ∧
      ∀ kind, files (setup.place kind (stem package)) =
        some (setup.content item kind)
  only :
    ∀ kind text, files (setup.place kind text) ≠ none →
      ∃ package ∈ items, text = stem package
  outside : ∀ place, ¬ setup.root <:+ place → files place = start place

/-- The launcher files mirror the database. -/
def Mirrors (setup : Setup) (start : Files) (system : System) : Prop :=
  ∃ stem, MirrorsBy setup start (system.files setup start)
    system.database.items system.latest stem

/-- A package that is a part of a file name. -/
def Simple (package : String) : Prop :=
  '/' ∉ package.toList ∧ nul ∉ package.toList

/-- A package that is stored is simple, and no other has its stem. -/
def Admits (system : System) : Call → Prop
  | .storeOrUpdate item _ =>
      Simple item.package ∧
        ∀ other ∈ system.database.items,
          stemOf other = stemOf item.package → other = item.package
  | .remove _ => True

/-- There are no launcher files. -/
def Setup.Clean (setup : Setup) (start : Files) : Prop :=
  ∀ kind text, start (setup.place kind text) = none

/-! ## Names -/

theorem cleanCharacter_ne_dot (character : Char) :
    (if character = '.' then '-' else character) ≠ '.' := by
  split
  · decide
  · assumption

theorem dot_notMem_stemOf (package : String) : '.' ∉ stemOf package := by
  intro member
  rcases List.mem_map.mp member with ⟨character, -, isDot⟩
  exact cleanCharacter_ne_dot character isDot

theorem mem_stemOf_iff {character : Char} (notHyphen : character ≠ '-')
    (notDot : character ≠ '.') (package : String) :
    character ∈ stemOf package ↔ character ∈ package.toList := by
  rw [stemOf, cleanPackageName, List.mem_map]
  constructor
  · rintro ⟨other, member, same⟩
    split at same
    · exact absurd same.symm notHyphen
    · exact same ▸ member
  · intro member
    exact ⟨character, member, if_neg notDot⟩

theorem simple_iff (package : String) :
    Simple package ↔ '/' ∉ stemOf package ∧ nul ∉ stemOf package := by
  rw [Simple, mem_stemOf_iff (by decide) (by decide),
    mem_stemOf_iff (by decide) (by decide)]

/-- The last letter of a file name. -/
def Kind.letter : Kind → Char
  | .desktop => 'p'
  | .png => 'g'

theorem getLast?_fileName (kind : Kind) (stem : Path) :
    (fileName kind stem).getLast? = some kind.letter := by
  have last : kind.extension.getLast? = some kind.letter := by
    cases kind with
    | desktop => rfl
    | png => rfl
  rw [fileName, List.getLast?_append, last, Option.some_or]

theorem fileName_injective {first second : Kind} {stem other : Path}
    (same : fileName first stem = fileName second other) :
    first = second ∧ stem = other := by
  have kinds : first = second := by
    have last := congrArg List.getLast? same
    rw [getLast?_fileName, getLast?_fileName, Option.some.injEq] at last
    revert last
    cases first with
    | desktop =>
        cases second with
        | desktop => exact fun _ => rfl
        | png => exact fun last => absurd last (by decide)
    | png =>
        cases second with
        | desktop => exact fun last => absurd last (by decide)
        | png => exact fun _ => rfl
  subst kinds
  exact ⟨rfl, List.append_cancel_left (List.append_cancel_right same)⟩

theorem place_injective {setup : Setup} {first second : Kind}
    {stem other : Path}
    (same : setup.place first stem = setup.place second other) :
    first = second ∧ stem = other :=
  fileName_injective (List.cons.inj same).1

/-! ## Places -/

section Places

variable (setup : Setup) (kind : Kind) (package : String)

theorem cString_append {first : Path} (noNul : nul ∉ first)
    (second : Path) : cString (first ++ second) = first ++ cString second := by
  apply List.takeWhile_append_of_pos
  intro character member
  exact decide_eq_true fun same => noNul (same ▸ member)

theorem cString_of_noNul {path : Path} (noNul : nul ∉ path) :
    cString path = path := by
  have whole := cString_append noNul []
  simpa [cString] using whole

theorem cString_append_of_nul {first : Path} (cut : nul ∈ first)
    (second : Path) : cString (first ++ second) = cString first := by
  rw [cString, List.takeWhile_append, if_neg]
  · rfl
  · intro lengths
    have whole := (List.takeWhile_prefix _).eq_of_length lengths
    have notNul := List.takeWhile_eq_self_iff.mp whole nul cut
    revert notNul
    decide

theorem cString_joined (stem : Path) :
    cString (joined setup.directory (fileName kind stem)) =
      joined setup.directory (cString (fileName kind stem)) := by
  have starts : ∃ rest, fileName kind stem = 'a' :: rest := ⟨_, rfl⟩
  rcases starts with ⟨rest, starts⟩
  rcases exists_joined_eq_append setup.directory with
    ⟨base, fromDirectory, glued⟩
  have noNul : nul ∉ base := by
    intro member
    rcases fromDirectory nul member with inside | slash
    · exact setup.noNul inside
    · revert slash
      decide
  have cut : cString ('a' :: rest) = 'a' :: cString rest :=
    cString_append (by decide : nul ∉ ['a']) rest
  rw [starts, glued 'a' rest (by decide), cString_append noNul, cut,
    glued 'a' (cString rest) (by decide)]

/-- What a system call sees of the name of a file. -/
def seenName : Path := cString (fileName kind (stemOf package))

theorem target_eq_within :
    setup.target package kind =
      (follow (seenName kind package)).within setup.root := by
  have same : setup.target package kind =
      placeOf (joined setup.directory
        (fileName kind (stemOf package))) := by
    cases kind with
    | desktop => rfl
    | png => rfl
  rw [same, placeOf, cString_joined, resolve_joined]
  rfl

/-- The name is cut in front of its extension, or is whole. -/
theorem seenName_cases :
    (nul ∈ stemOf package ∧ '.' ∉ seenName kind package) ∨
      (nul ∉ stemOf package ∧
        seenName kind package = fileName kind (stemOf package)) := by
  have start : nul ∉ nameStart := by decide
  by_cases cut : nul ∈ stemOf package
  · refine Or.inl ⟨cut, ?_⟩
    rw [seenName, fileName, List.append_assoc, cString_append start,
      cString_append_of_nul cut, List.mem_append, not_or]
    refine ⟨by decide, ?_⟩
    intro member
    exact dot_notMem_stemOf package
      ((List.takeWhile_prefix _).mem member)
  · refine Or.inr ⟨cut, cString_of_noNul ?_⟩
    rw [fileName, List.mem_append, List.mem_append, not_or, not_or]
    refine ⟨⟨start, cut⟩, ?_⟩
    cases kind with
    | desktop => decide
    | png => decide

theorem whole_extension : Whole isSlash kind.extension := by
  cases kind with
  | desktop => exact whole_of_noSlash (by decide) (by decide)
  | png => exact whole_of_noSlash (by decide) (by decide)

theorem dot_notMem_nameStart_append :
    '.' ∉ nameStart ++ stemOf package := by
  rw [List.mem_append, not_or]
  exact ⟨by decide, dot_notMem_stemOf package⟩

/-- No component of a file name is a dot or two. -/
theorem components_seenName_names :
    ∀ component ∈ components (seenName kind package),
      component ≠ ['.'] ∧ component ≠ ['.', '.'] := by
  have dotless : ∀ {component : Path}, '.' ∉ component →
      component ≠ ['.'] ∧ component ≠ ['.', '.'] := by
    intro component noDot
    constructor
    · rintro rfl
      exact noDot (by decide)
    · rintro rfl
      exact noDot (by decide)
  intro component member
  rcases seenName_cases kind package with ⟨-, noDot⟩ | ⟨-, whole⟩
  · exact dotless fun dot =>
      noDot ((isInfix_of_mem_pieces member).mem dot)
  · rcases exists_pieces_append_whole (whole_extension kind)
      (nameStart ++ stemOf package) with ⟨others, last, pieces, inside⟩
    rw [components, whole, fileName, pieces] at member
    rcases List.mem_append.mp member with other | isLast
    · exact dotless fun dot => dot_notMem_nameStart_append package
        ((inside component other).mem dot)
    · have ends : kind.letter ∈ component := by
        rw [List.mem_singleton.mp isLast, List.mem_append]
        right
        cases kind with
        | desktop => decide
        | png => decide
      have ordinary : Ordinary kind.letter := by
        cases kind with
        | desktop => exact ⟨by decide, by decide⟩
        | png => exact ⟨by decide, by decide⟩
      exact ordinary.ne_dots ends

/-- A file is below the launcher directory, along the parts of its name. -/
theorem target_eq :
    setup.target package kind =
      (components (seenName kind package)).reverse ++ setup.root := by
  rw [target_eq_within,
    follow_eq_of_names (components_seenName_names kind package)]
  rfl

/-- The files of a simple package are right in the launcher directory. -/
theorem target_of_simple {package : String} (simple : Simple package) :
    setup.target package kind = setup.place kind (stemOf package) := by
  rcases (simple_iff package).mp simple with ⟨noSlash, noNul⟩
  rcases seenName_cases kind package with ⟨cut, -⟩ | ⟨-, whole⟩
  · exact absurd cut noNul
  · have name : Whole isSlash (fileName kind (stemOf package)) := by
      refine whole_of_noSlash ?_ ?_
      · exact List.append_ne_nil_of_right_ne_nil _ (whole_extension kind).1
      · rw [fileName, List.mem_append, List.mem_append, not_or, not_or]
        refine ⟨⟨by decide, noSlash⟩, fun slash => ?_⟩
        exact absurd ((whole_extension kind).2 '/' slash) (by decide)
    rw [target_eq, whole, components, pieces_of_whole name]
    rfl

/-- The files of any other package are no launcher files. -/
theorem target_ne_place {package : String} (notSimple : ¬ Simple package)
    (other : Kind) (text : Path) :
    setup.target package kind ≠ setup.place other text := by
  intro same
  rw [target_eq, Setup.place, ← List.singleton_append] at same
  have single := List.append_cancel_right same
  rw [List.reverse_eq_cons_iff, List.reverse_nil, List.nil_append] at single
  rw [simple_iff] at notSimple
  rcases seenName_cases kind package with ⟨-, noDot⟩ | ⟨noNul, whole⟩
  · have member : fileName other text ∈
        components (seenName kind package) := by
      rw [single]
      exact List.mem_cons_self
    refine noDot ((isInfix_of_mem_pieces member).mem ?_)
    rw [fileName, List.mem_append]
    right
    cases other with
    | desktop => decide
    | png => decide
  · have slash : '/' ∈ stemOf package := by
      by_contra noSlash
      exact notSimple ⟨noSlash, noNul⟩
    rcases List.append_of_mem slash with ⟨before, behind, cut⟩
    have start : pieces isSlash (nameStart ++ before) ≠ [] := by
      intro none
      have isSlash := separates_of_pieces_eq_nil none 'a'
        (List.mem_append_left _ (by decide))
      revert isSlash
      decide
    have ending : pieces isSlash (behind ++ kind.extension) ≠ [] := by
      rcases exists_pieces_append_whole (whole_extension kind) behind with
        ⟨others, last, ends, -⟩
      rw [ends]
      exact List.append_ne_nil_of_right_ne_nil _ (List.cons_ne_nil _ _)
    have parts : fileName kind (stemOf package) =
        (nameStart ++ before) ++ '/' :: (behind ++ kind.extension) := by
      rw [fileName, cut]
      simp
    rw [whole, components, parts, pieces_append_cons (by rfl)] at single
    have lengths := congrArg List.length single
    rw [List.length_append, List.length_singleton] at lengths
    have first := List.length_pos_of_ne_nil start
    have second := List.length_pos_of_ne_nil ending
    omega

end Places

/-! ## Two files at once -/

section Pairs

variable {setup : Setup} {files : Files} {package : String}
variable {contents : Kind → Option (List UInt8)}

theorem setPair_of_ne {place : Place}
    (other : ∀ kind, place ≠ setup.target package kind) :
    setup.setPair files package contents place = files place := by
  rw [Setup.setPair, Function.update_of_ne (other .png),
    Function.update_of_ne (other .desktop)]

/-- A simple package has its own two files changed. -/
theorem setPair_of_simple (simple : Simple package) (kind : Kind)
    (text : Path) :
    setup.setPair files package contents (setup.place kind text) =
      if text = stemOf package then contents kind
      else files (setup.place kind text) := by
  split
  · next same =>
    subst same
    rw [Setup.setPair, target_of_simple setup _ simple,
      target_of_simple setup _ simple]
    cases kind with
    | desktop =>
        rw [Function.update_of_ne, Function.update_self]
        exact fun same => nomatch (place_injective same).1
    | png => exact Function.update_self _ _ _
  · next different =>
    refine setPair_of_ne fun other same => different ?_
    rw [target_of_simple setup other simple] at same
    exact (place_injective same).2

theorem setPair_of_not_simple (notSimple : ¬ Simple package) (kind : Kind)
    (text : Path) :
    setup.setPair files package contents (setup.place kind text) =
      files (setup.place kind text) :=
  setPair_of_ne fun other same =>
    target_ne_place setup other notSimple kind text same.symm

theorem setPair_outside {place : Place} (outside : ¬ setup.root <:+ place) :
    setup.setPair files package contents place = files place := by
  refine setPair_of_ne fun kind same => outside ?_
  rw [same, target_eq]
  exact List.suffix_append _ _

theorem reset_outside {place : Place} (outside : ¬ setup.root <:+ place) :
    setup.perform files .reset place = files place := by
  cases place with
  | nil => rfl
  | cons name directory =>
      refine if_neg ?_
      rintro ⟨rfl, -⟩
      exact outside (List.suffix_cons name setup.root)

theorem reset_place (kind : Kind) (text : Path) :
    setup.perform files .reset (setup.place kind text) = none := by
  refine if_pos ⟨rfl, ?_⟩
  rw [fileName, List.append_assoc]
  exact List.prefix_append _ _

end Pairs

/-! ## One call of the storage -/

section Storage

variable {setup : Setup} {start files : Files}
variable {items : TreeMap String Item} {latest : String → Option Item}

/-- A reset suits a database that is empty. -/
theorem MirrorsBy.reset {stem : String → Path}
    (mirrors : MirrorsBy setup start files items latest stem)
    (empty : ∀ package, package ∉ items) :
    MirrorsBy setup start (setup.perform files .reset) items latest
      stem where
  distinct first member := absurd member (empty first)
  pairs package member := absurd member (empty package)
  only kind text written := absurd (reset_place kind text) written
  outside place isOutside :=
    (reset_outside isOutside).trans (mirrors.outside place isOutside)

/-- A simple package is stored in files of its own. -/
theorem MirrorsBy.store
    (mirrors : MirrorsBy setup start files items latest stemOf)
    {item : Item} (simple : Simple item.package)
    (unshared :
      ∀ other ∈ items, stemOf other = stemOf item.package →
        other = item.package)
    (kept : Item) :
    MirrorsBy setup start
      (setup.setPair files item.package fun kind =>
        some (setup.content item kind))
      (items.insert item.package kept)
      (Function.update latest item.package (some item)) stemOf := by
  constructor
  case distinct =>
    intro first isFirst second isSecond same
    rcases mem_insert_iff.mp isFirst with rfl | first'
    · rcases mem_insert_iff.mp isSecond with rfl | second'
      · rfl
      · exact (unshared second second' same.symm).symm
    · rcases mem_insert_iff.mp isSecond with rfl | second'
      · exact unshared first first' same
      · exact mirrors.distinct first first' second second' same
  case pairs =>
    intro package member
    by_cases isNew : package = item.package
    · subst isNew
      refine ⟨item, Function.update_self _ _ _, fun kind => ?_⟩
      exact (setPair_of_simple simple kind _).trans (if_pos rfl)
    · have old := (mem_insert_iff.mp member).resolve_left isNew
      rcases mirrors.pairs package old with ⟨stored, isLatest, pair⟩
      refine ⟨stored, (Function.update_of_ne isNew _ _).trans isLatest,
        fun kind => ?_⟩
      refine ((setPair_of_simple simple kind _).trans (if_neg ?_)).trans
        (pair kind)
      exact fun same => isNew (unshared package old same)
  case only =>
    intro kind text written
    rw [setPair_of_simple simple] at written
    split at written
    · next same =>
      exact ⟨item.package, mem_insert_iff.mpr (Or.inl rfl), same⟩
    · rcases mirrors.only kind text written with ⟨package, member, same⟩
      exact ⟨package, mem_insert_iff.mpr (Or.inr member), same⟩
  case outside =>
    intro place isOutside
    exact (setPair_outside isOutside).trans (mirrors.outside place isOutside)

theorem MirrorsBy.remove
    (mirrors : MirrorsBy setup start files items latest stemOf)
    {package : String} (inside : package ∈ items)
    (simple : Simple package) :
    MirrorsBy setup start (setup.setPair files package fun _ => none)
      (items.erase package) latest stemOf := by
  constructor
  case distinct =>
    intro first isFirst second isSecond same
    exact mirrors.distinct first (mem_erase_iff.mp isFirst).2 second
      (mem_erase_iff.mp isSecond).2 same
  case pairs =>
    intro other member
    rcases mem_erase_iff.mp member with ⟨different, old⟩
    rcases mirrors.pairs other old with ⟨stored, isLatest, pair⟩
    refine ⟨stored, isLatest, fun kind => ?_⟩
    refine ((setPair_of_simple simple kind _).trans (if_neg ?_)).trans
      (pair kind)
    exact fun same =>
      different (mirrors.distinct other old package inside same)
  case only =>
    intro kind text written
    rw [setPair_of_simple simple] at written
    split at written
    · exact absurd rfl written
    · next notRemoved =>
      rcases mirrors.only kind text written with ⟨other, member, rfl⟩
      refine ⟨other, mem_erase_iff.mpr ⟨?_, member⟩, rfl⟩
      rintro rfl
      exact notRemoved rfl
  case outside =>
    intro place isOutside
    exact (setPair_outside isOutside).trans (mirrors.outside place isOutside)

/-- One package more than there are stems cannot have files of its own. -/
theorem not_mirrorsBy_insert {package : String} (absent : package ∉ items)
    {stem : String → Path}
    (few :
      ∀ text, files (setup.place .desktop text) ≠ none →
        ∃ other ∈ items, text = stem other)
    (kept : Item) (own : String → Path) :
    ¬ MirrorsBy setup start files (items.insert package kept) latest
      own := by
  intro mirrors
  have keys : ∀ {other : String}, other ∈ items.keys.toFinset ↔
      other ∈ items := by
    intro other
    rw [List.mem_toFinset, TreeMap.mem_keys]
  have all : ∀ other ∈ insert package items.keys.toFinset,
      other ∈ items.insert package kept := by
    intro other member
    rw [Finset.mem_insert, keys] at member
    exact mem_insert_iff.mpr member
  have owned : (insert package items.keys.toFinset).image own ⊆
      items.keys.toFinset.image stem := by
    intro text member
    rcases Finset.mem_image.mp member with ⟨other, isKey, rfl⟩
    rcases mirrors.pairs other (all other isKey) with ⟨item, -, pair⟩
    have present : files (setup.place .desktop (own other)) ≠ none := by
      rw [pair]
      exact Option.some_ne_none _
    rcases few _ present with ⟨old, inside, same⟩
    exact Finset.mem_image.mpr ⟨old, keys.mpr inside, same.symm⟩
  have distinct : Set.InjOn own
      (insert package items.keys.toFinset : Finset String) :=
    fun first isFirst second isSecond same =>
      mirrors.distinct first (all first isFirst) second
        (all second isSecond) same
  have more := Finset.card_le_card owned
  rw [Finset.card_image_of_injOn distinct,
    Finset.card_insert_of_notMem (keys.not.mpr absent)] at more
  have atMost : (items.keys.toFinset.image stem).card ≤
      items.keys.toFinset.card := Finset.card_image_le
  omega

end Storage

/-! ## One call of the database -/

/-- The first item is stored after a reset. -/
theorem storeOrUpdate_state (database : Database) (item : Item)
    (named : item.package ≠ "") :
    (storeOrUpdate noFailure database item named).state.items =
        database.items.insert item.package { item with icon := [] } ∧
      (storeOrUpdate noFailure database item named).state.doneReset =
        true ∧
      (storeOrUpdate noFailure database item named).state.storage =
        (if database.doneReset then database.storage
          else database.storage ++ [.reset]) ++ [.addOrUpdate item] := by
  cases done : database.doneReset with
  | true =>
      simp only [storeOrUpdate, callStorage, noFailure, done, if_true,
        Bool.false_eq_true, if_false, Outcome.andThen_returned]
      exact ⟨rfl, rfl, rfl⟩
  | false =>
      simp only [storeOrUpdate, callStorage, noFailure, done,
        Bool.false_eq_true, if_false, Outcome.andThen_returned]
      exact ⟨rfl, rfl, rfl⟩

theorem remove_state_of_mem {database : Database} {package : String}
    (inside : package ∈ database.items) :
    (remove noFailure database package).state.items =
        database.items.erase package ∧
      (remove noFailure database package).state.doneReset =
        database.doneReset ∧
      (remove noFailure database package).state.storage =
        database.storage ++ [.remove package] := by
  rw [TreeMap.mem_iff_isSome_getElem?, Option.isSome_iff_exists] at inside
  rcases inside with ⟨item, found⟩
  unfold remove
  rw [found]
  exact ⟨rfl, rfl, rfl⟩

theorem remove_state_of_notMem {database : Database} {package : String}
    (absent : package ∉ database.items) :
    (remove noFailure database package).state = database := by
  rw [TreeMap.mem_iff_isSome_getElem?, Option.not_isSome_iff_eq_none]
    at absent
  unfold remove
  rw [absent]
  rfl

/-- What calls keep that are admitted. -/
structure Sound (setup : Setup) (start : Files) (system : System) :
    Prop where
  mirrors :
    MirrorsBy setup start (system.files setup start) system.database.items
      system.latest stemOf
  simple : ∀ package ∈ system.database.items, Simple package
  fresh :
    system.database.doneReset = false →
      ∀ package, package ∉ system.database.items

section Steps

variable {setup : Setup} {start : Files} {system : System}

/-- The files when an item is about to be written. -/
def System.filesBefore (system : System) (setup : Setup) (start : Files) :
    Files :=
  if system.database.doneReset then system.files setup start
  else setup.perform (system.files setup start) .reset

theorem files_storeOrUpdate (item : Item) (named : item.package ≠ "") :
    (step system (.storeOrUpdate item named)).files setup start =
      setup.setPair (system.filesBefore setup start) item.package
        fun kind => some (setup.content item kind) := by
  have storage :=
    (storeOrUpdate_state system.database item named).2.2
  rw [System.files, step, storage, List.foldl_append, List.foldl_cons,
    List.foldl_nil, System.filesBefore]
  split
  · rfl
  · rw [List.foldl_append]
    rfl

theorem Sound.before (sound : Sound setup start system) :
    MirrorsBy setup start (system.filesBefore setup start)
      system.database.items system.latest stemOf := by
  unfold System.filesBefore
  split
  · exact sound.mirrors
  · next notDone =>
    exact sound.mirrors.reset (sound.fresh (by simpa using notDone))

theorem Sound.store (sound : Sound setup start system) {item : Item}
    (named : item.package ≠ "")
    (admitted : Admits system (.storeOrUpdate item named)) :
    Sound setup start (step system (.storeOrUpdate item named)) := by
  rcases admitted with ⟨simple, unshared⟩
  rcases storeOrUpdate_state system.database item named with
    ⟨items, done, -⟩
  constructor
  case mirrors =>
    rw [files_storeOrUpdate]
    simp only [step, items]
    exact sound.before.store simple unshared _
  case simple =>
    intro package member
    simp only [step, items] at member
    rcases mem_insert_iff.mp member with rfl | old
    · exact simple
    · exact sound.simple package old
  case fresh =>
    intro notDone
    simp only [step, done, Bool.true_eq_false] at notDone

theorem Sound.remove (sound : Sound setup start system)
    (package : String) :
    Sound setup start (step system (.remove package)) := by
  by_cases inside : package ∈ system.database.items
  · rcases remove_state_of_mem inside with ⟨items, done, storage⟩
    constructor
    case mirrors =>
      simp only [System.files, step, storage, items, List.foldl_append,
        List.foldl_cons, List.foldl_nil]
      exact sound.mirrors.remove inside (sound.simple package inside)
    case simple =>
      intro other member
      simp only [step, items] at member
      exact sound.simple other (mem_erase_iff.mp member).2
    case fresh =>
      intro notDone other member
      simp only [step, done] at notDone
      exact sound.fresh notDone package inside
  · have same : step system (.remove package) = system := by
      rw [step, remove_state_of_notMem inside]
    rw [same]
    exact sound

/-- A call that is not admitted leaves too few files. -/
theorem Sound.admits (sound : Sound setup start system) {call : Call}
    (mirrors : Mirrors setup start (step system call)) :
    Admits system call := by
  cases call with
  | remove package => exact trivial
  | storeOrUpdate item named =>
      by_contra notAdmitted
      rcases mirrors with ⟨own, mirrors⟩
      rw [files_storeOrUpdate] at mirrors
      simp only [step, (storeOrUpdate_state system.database item named).1]
        at mirrors
      have before := sound.before
      have absent : item.package ∉ system.database.items := by
        intro inside
        refine notAdmitted ⟨sound.simple item.package inside, ?_⟩
        intro other member same
        exact sound.mirrors.distinct other member item.package inside same
      have few : ∀ text,
          setup.setPair (system.filesBefore setup start) item.package
              (fun kind => some (setup.content item kind))
              (setup.place .desktop text) ≠ none →
            ∃ other ∈ system.database.items, text = stemOf other := by
        intro text written
        by_cases simple : Simple item.package
        · rw [setPair_of_simple simple] at written
          split at written
          · next isStem =>
            by_contra none
            refine notAdmitted ⟨simple, fun other member same => ?_⟩
            exact absurd ⟨other, member, isStem.trans same.symm⟩ none
          · exact before.only .desktop text written
        · rw [setPair_of_not_simple simple] at written
          exact before.only .desktop text written
      exact not_mirrorsBy_insert absent few _ own mirrors

end Steps

/-! ## Every run -/

theorem sound_initial {setup : Setup} {start : Files}
    (clean : setup.Clean start) : Sound setup start System.initial where
  mirrors :=
    { distinct := fun _ member => absurd member TreeMap.not_mem_emptyc
      pairs := fun _ member => absurd member TreeMap.not_mem_emptyc
      only := fun kind text written => absurd (clean kind text) written
      outside := fun _ _ => rfl }
  simple := fun _ member => absurd member TreeMap.not_mem_emptyc
  fresh := fun _ _ => TreeMap.not_mem_emptyc

/-- Launcher files from before do not belong to a package. -/
theorem clean_of_mirrors {setup : Setup} {start : Files}
    (mirrors : Mirrors setup start System.initial) :
    setup.Clean start := by
  rcases mirrors with ⟨stem, mirrors⟩
  intro kind text
  by_contra written
  rcases mirrors.only kind text written with ⟨package, member, -⟩
  exact absurd member TreeMap.not_mem_emptyc

/--
The launcher files mirror the database all the way exactly if there are none at
first, and each package that is stored is simple and has a stem that no other
package in the database has.
-/
theorem mirrors_always_iff (setup : Setup) (start : Files)
    (calls : List Call) :
    (∀ earlier, earlier <+: calls →
        Mirrors setup start (runFrom step System.initial earlier)) ↔
      setup.Clean start ∧ Admitted step Admits System.initial calls := by
  have always : setup.Clean start →
      ((∀ earlier, earlier <+: calls →
          Mirrors setup start (runFrom step System.initial earlier)) ↔
        Admitted step Admits System.initial calls) := fun clean =>
    always_iff_admitted (fun _ sound => ⟨stemOf, sound.mirrors⟩)
      (fun system call sound admitted => by
        cases call with
        | storeOrUpdate item named => exact sound.store named admitted
        | remove package => exact sound.remove package)
      (fun _ _ sound mirrors => sound.admits mirrors)
      (sound_initial clean) calls
  constructor
  · intro mirrors
    have clean := clean_of_mirrors (mirrors [] List.nil_prefix)
    exact ⟨clean, (always clean).mp mirrors⟩
  · rintro ⟨clean, admitted⟩
    exact (always clean).mpr admitted

/-- A process outside a snap, with launchers in one directory. -/
def appsSetup : Setup := ⟨installed, "/apps".toList, by decide⟩

def storing (package : String) (named : package ≠ "") : Call :=
  .storeOrUpdate ⟨"", package, ⟨"", "", "", 0, package, "", []⟩, []⟩ named

/-- A dot and a hyphen make the same name of a file. -/
def dotAndHyphen : List Call :=
  [storing "a.b" (by decide), storing "a-b" (by decide)]

/-- The second package has taken the files of the first. -/
theorem packages_share_files :
    ¬ Mirrors appsSetup (fun _ => none)
      (runFrom step System.initial dotAndHyphen) := by
  have first : Sound appsSetup (fun _ => none)
      (step System.initial (storing "a.b" (by decide))) := by
    refine (sound_initial fun _ _ => rfl).store (by decide)
      ⟨⟨by decide, by decide⟩, ?_⟩
    exact fun _ member => absurd member TreeMap.not_mem_emptyc
  intro mirrors
  have admitted : Admits (step System.initial (storing "a.b" (by decide)))
      (storing "a-b" (by decide)) := first.admits mirrors
  have inside : "a.b" ∈
      (step System.initial (storing "a.b" (by decide))).database.items :=
    mem_insert_iff.mpr (Or.inl rfl)
  exact absurd (admitted.2 "a.b" inside (by decide)) (by decide)

end Anbox.Application.LauncherFiles
