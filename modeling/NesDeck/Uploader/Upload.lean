/-
**Decoding an upload.**

An upload is a file with the extension of its system, or a ZIP archive that holds one such file and
nothing else.  Whatever `decodeUpload` (`uploader/rom.go`) returns has passed `validateROM`.

The reader of ZIP archives is a parameter: it says whether an archive is well formed, and lists its
members with what becomes of opening and reading each of them.

Main definitions:

* `NesDeck.Uploader.pathExt`, `NesDeck.Uploader.pathBase` — `filepath.Ext` and `filepath.Base`;
* `NesDeck.Uploader.Upload`, `NesDeck.Uploader.ZipMember` — what arrives;
* `NesDeck.Uploader.UploadError` — the reasons for a refusal, with their texts;
* `NesDeck.Uploader.decodeUpload` — the decoder.

Main results:

* `NesDeck.Uploader.validateROM_of_decodeUpload` — **what is decoded is valid**.
-/

import NesDeck.Uploader.Validation

set_option relaxedAutoImplicit false
set_option autoImplicit false

namespace NesDeck.Uploader

open HostFile

/-! ### Paths -/

/-- The part of a path from the last dot of its last element on. -/
def pathExt (path : Bytes) : Bytes :=
  let element := path.reverse.takeWhile (· ≠ 0x2f)
  let suffix := element.takeWhile (· ≠ 0x2e)
  if suffix.length < element.length then 0x2e :: suffix.reverse else []

/-- The last element of a path. -/
def pathBase (path : Bytes) : Bytes :=
  if path = [] then ascii "."
  else
    let element := ((path.reverse.dropWhile (· = 0x2f)).takeWhile (· ≠ 0x2f)).reverse
    if element = [] then ascii "/" else element

example : pathExt (ascii "a.b/c.d.NES") = ascii ".NES" := by decide

/-! ### Uploads -/

/-- A file of a form: its name, its bytes, and whether they cannot be read. -/
structure Upload where
  filename : Bytes
  content : Bytes
  readFails : Bool

/-- A member of a ZIP archive. -/
structure ZipMember where
  name : Bytes
  isDir : Bool
  encrypted : Bool
  isSymlink : Bool
  uncompressedSize : ℕ
  openFails : Bool
  readFails : Bool
  content : Bytes

def maximumArchiveBytes : ℕ := 10 * 1024 * 1024

/-- The reasons for which `decodeUpload` refuses an upload. -/
inductive UploadError where
  | unsupportedSystem
  | unreadable
  | archiveTooLarge
  | wrongExtension (extension : Bytes)
  | malformedZip
  | notExactlyOne
  | unsafeMember
  | wrongMember (extension : Bytes)
  | memberNotOpened
  | memberNotRead
  | image (error : ImageError)

/-- The text of the error. -/
def UploadError.message : UploadError → Bytes
  | unsupportedSystem => ascii "choose a supported system"
  | unreadable => ascii "the upload could not be read"
  | archiveTooLarge => ascii "the upload exceeds 10 MiB"
  | wrongExtension extension =>
      ascii "choose a " ++ extension ++ ascii " file or a ZIP containing one"
  | malformedZip => ascii "the ZIP file is malformed"
  | notExactlyOne => ascii "the ZIP must contain exactly one ROM"
  | unsafeMember => ascii "the ZIP contains an unsafe or encrypted member"
  | wrongMember extension =>
      ascii "the ZIP must contain one " ++ extension ++ ascii " file of a valid size"
  | memberNotOpened => ascii "the ZIP member could not be opened"
  | memberNotRead => ascii "the ZIP member could not be read safely"
  | image error => ascii error.message

/-- The loop over the members: the only one that is no directory, if there is one. -/
def soleMember : List ZipMember → Option ZipMember → Except UploadError (Option ZipMember)
  | [], member => .ok member
  | candidate :: rest, member =>
      if candidate.isDir = true then soleMember rest member
      else if member.isSome = true then .error .notExactlyOne
      else soleMember rest (some candidate)

/-- An image, if it is valid. -/
def checkedImage (system data : Bytes) : Except UploadError Bytes :=
  match validateROM system data with
  | .error error => .error (.image error)
  | .ok () => .ok data

def decodeUpload (toLower : Bytes → Bytes) (unzip : Bytes → Option (List ZipMember))
    (system : Bytes) (upload : Upload) : Except UploadError Bytes :=
  match supportedSystems system with
  | none => .error .unsupportedSystem
  | some spec =>
      let archive := upload.content.take (maximumArchiveBytes + 1)
      if upload.readFails = true then .error .unreadable
      else if maximumArchiveBytes < archive.length then .error .archiveTooLarge
      else
        let extension := toLower (pathExt upload.filename)
        if extension = spec.extension then checkedImage system archive
        else if extension ≠ ascii ".zip" then .error (.wrongExtension spec.extension)
        else
          match unzip archive with
          | none => .error .malformedZip
          | some members =>
              match soleMember members none with
              | .error error => .error error
              | .ok none => .error .unsafeMember
              | .ok (some member) =>
                  if member.encrypted = true ∨ member.isSymlink = true ∨
                      member.name ≠ pathBase member.name ∨ 0x5c ∈ member.name then
                    .error .unsafeMember
                  else if toLower (pathExt member.name) ≠ spec.extension ∨
                      spec.maximum < member.uncompressedSize then
                    .error (.wrongMember spec.extension)
                  else if member.openFails = true then .error .memberNotOpened
                  else
                    let data := member.content.take (spec.maximum + 1)
                    if member.readFails = true ∨ spec.maximum < data.length then
                      .error .memberNotRead
                    else checkedImage system data

theorem checkedImage_ok {system data image : Bytes} (h : checkedImage system data = .ok image) :
    validateROM system image = .ok () := by
  rw [checkedImage] at h
  split at h
  · cases h
  · rename_i hvalid
    cases h
    exact hvalid

/-- **What is decoded is valid.** -/
theorem validateROM_of_decodeUpload {toLower : Bytes → Bytes}
    {unzip : Bytes → Option (List ZipMember)} {system : Bytes} {upload : Upload} {data : Bytes}
    (h : decodeUpload toLower unzip system upload = .ok data) :
    validateROM system data = .ok () := by
  rw [decodeUpload] at h
  split at h
  · cases h
  dsimp only at h
  split at h
  · cases h
  split at h
  · cases h
  split at h
  · exact checkedImage_ok h
  split at h
  · cases h
  split at h
  · cases h
  split at h
  · cases h
  · cases h
  split at h
  · cases h
  split at h
  · cases h
  split at h
  · cases h
  split at h
  · cases h
  · exact checkedImage_ok h

end NesDeck.Uploader
