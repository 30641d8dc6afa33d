import ChatClient.Unicode.Combining

/-! Cursive joining: with which neighbours a letter is written in one stroke. -/

namespace ChatClient.Unicode

inductive Joining where
  | alone
  /-- Joins the letter after it. -/
  | left
  /-- Joins the letter before it. -/
  | right
  /-- Joins the letters on both sides. -/
  | dual
  /-- Stands between joined letters without parting them. -/
  | transparent
  deriving DecidableEq, Repr

/-- The characters of each way of joining. Nonspacing marks are transparent, and all other
characters stand alone. The table covers what domain names may hold, and gaps that they do not use
are closed. -/
def joinings : List (Joining × CodeSet) := [
  (.transparent, .ofRows ["1E94B"]),
  (.left, .ofRows [
    "A872 10ACD 10AD7 10D00 10FCB"]),
  (.right, .ofRows [
    "622-625 627 629 62F-632 648 671-673 688-699 6C0 6C3-6CB 6CD 6CF 6D2-6D3 6D5 6EE-6EF 710",
    "715-719 71E 728 72A 72C 72F 74D 759-75B 76B-76C 771 773-774 778-779 840 846-847 849 854",
    "856-858 867 869-882 88E 8AA-8AC 8AE 8B1-8B2 8B9 10AC5 10AC7 10AC9-10ACA 10ACE-10AD2 10ADD",
    "10AE1 10AE4 10AEF 10B81 10B83-10B85 10B89 10B8C 10B8E-10B8F 10B91 10BA9-10BAC 10D22 10EC2",
    "10F33 10F54 10F74-10F75 10FB4-10FB6 10FB9-10FBA 10FBD 10FC2-10FC3 10FC9"]),
  (.dual, .ofRows [
    "620 626 628 62A-62E 633-63F 641-647 649-64A 66E-66F 679-687 69A-6BF 6C1-6C2 6CC 6CE",
    "6D0-6D1 6FA-6FC 6FF 712-714 71A-71D 71F-727 729 72B 72D-72E 74E-758 75C-76A 76D-770 772",
    "775-777 77A-77F 7CA-7EA 841-845 848 84A-853 855 860 862-865 868 886 889-88D 88F 8A0-8A9",
    "8AF-8B0 8B3-8B8 8BA-8C8 1807 1820-1878 1887-18A8 18AA A840-A871 10AC0-10AC4 10AD3-10AD6",
    "10AD8-10ADC 10ADE-10AE0 10AEB-10AEE 10B80 10B82 10B86-10B88 10B8A-10B8B 10B8D 10B90",
    "10BAD-10BAE 10D01-10D21 10D23 10EC3-10EC4 10EC6-10EC7 10F30-10F32 10F34-10F44 10F51-10F53",
    "10F70-10F73 10F76-10F81 10FB0 10FB2-10FB3 10FB8 10FBB-10FBC 10FBE-10FBF 10FC1 10FC4 10FCA",
    "1E922-1E943"])]

def Joining.of (c : Char) : Joining :=
  match joinings.find? fun row => row.2.contains c with
  | some (joining, _) => joining
  | none => if nonspacingMarks.contains c then .transparent else .alone

end ChatClient.Unicode
