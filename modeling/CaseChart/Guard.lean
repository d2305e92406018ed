import CaseChart.Decimal.Layout
import CaseChart.Settings.Limits
import CaseChart.Text.Basic

namespace CaseChart

inductive Breach where
  | fileSize (megabytes : Float)
  | tooManyFiles (limit : Int)
  | noFiles
  | textLength (limit : Int)
  | shortKey
  | keyCharacters

def Breach.message : Breach → String
  | fileSize megabytes => s!"File size exceeds limit of {Decimal.sixDigits megabytes}MB"
  | tooManyFiles limit => s!"Maximum {limit} files allowed per upload"
  | noFiles => "Please select at least one file"
  | textLength limit => s!"Text exceeds maximum length of {limit} characters"
  | shortKey => "API key is too short"
  | keyCharacters => "API key contains invalid characters"

namespace Guard

/-- A document of `bytes` bytes, if there is a limit to compare with. -/
def fileSize (l : Limits) (bytes : Int) : Except Decimal.NonFinite (Option Breach) :=
  l.uploadBytes.map fun most => if most < bytes then some (.fileSize l.uploadMegabytes) else none

def fileCount (l : Limits) (count : Int) : Option Breach :=
  if l.filesPerUpload < count then some (.tooManyFiles l.filesPerUpload)
  else if count = 0 then some .noFiles
  else none

def textLength (l : Limits) (length : Int) : Option Breach :=
  if l.textLength < length then some (.textLength l.textLength) else none

def isControl (c : Char) : Bool := c.toNat < 32 || c.toNat == 127

/-- Drops control characters anywhere and white space at the ends. -/
def sanitize (t : Text) : Text := Text.trim (t.filter fun c => !isControl c)

def isKeyChar (c : Char) : Bool := c.isAlphanum || c == '_' || c == '-'

/-- One such character at least, and nothing else but a line feed at the very end. -/
def hasKeyForm (t : Text) : Bool :=
  t.takeWhile isKeyChar ≠ [] && (t.dropWhile isKeyChar = [] || t.dropWhile isKeyChar = ['\n'])

/-- An access key: once sanitized, long enough and of plain characters only. -/
def accessKey (l : Limits) (key : Text) : Option Breach :=
  let key := sanitize key
  if (key.length : Int) < l.keyLength then some .shortKey
  else if hasKeyForm key then none
  else some .keyCharacters

end Guard
end CaseChart
