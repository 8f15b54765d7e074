import GraphClient.Folder
import GraphClient.Settings.Document

namespace GraphClient.Settings

def utf8 (text : String) : Bytes :=
  text.toUTF8.toList

def ofUtf8? (content : Bytes) : Option String :=
  String.fromUTF8? ⟨content.toArray⟩

/-- The settings of a file. A file that is missing or is no text cannot be read. -/
def load (read : Reader) (folder : Folder) (path : String) : Except ConfigurationFault Settings :=
  match (folder.read? path).bind ofUtf8? with
  | none => .error (.unreadable path)
  | some text => ofText read text

/-- Writes the default document unless there is something under the path already. -/
def writeDefault (folder : Folder) (path : String) : Except ConfigurationFault Folder :=
  if folder.exists? path then .ok folder
  else
    match folder.write? path (utf8 defaultText) with
    | none => .error (.unwritable path)
    | some folder => .ok folder

end GraphClient.Settings
