import Rollout.Text.Ranges

/-!
# Plain forms of small letters

Unicode has many characters that are small letters in another form: wide, raised, circled, in a
mathematical alphabet, as a Roman numeral, or joined in a ligature. Their plain form is a text of one
or more small letters of ASCII.
-/

namespace Rollout.Text

/-- Code points from `first` to `last` whose plain forms are the small letters from `letter` on. -/
structure LetterRun where
  first : Nat
  last : Nat
  letter : Char

/-- The run that a word such as `ff41-ff5a>a` stands for. -/
def LetterRun.ofWord (word : List Char) : LetterRun :=
  let (range, letter) := word.span (· ≠ '>')
  let (first, last) := Ranges.ofWord range
  ⟨first, last, letter.getLastD 'a'⟩

/-- Runs of small letters. -/
def letterRuns : List LetterRun :=
  (words
    "2096-2099>k 24d0-24e9>a ff41-ff5a>a 1d41a-1d433>a 1d44e-1d454>a 1d456-1d467>i 1d482-1d49b>a
    1d4b6-1d4b9>a 1d4bd-1d4c3>h 1d4c5-1d4cf>p 1d4ea-1d503>a 1d51e-1d537>a 1d552-1d56b>a
    1d586-1d59f>a 1d5ba-1d5d3>a 1d5ee-1d607>a 1d622-1d63b>a 1d656-1d66f>a 1d68a-1d6a3>a").map
    fun word => LetterRun.ofWord word.toList

/-- The code point and the plain form that a word such as `fb01=fi` stands for. -/
def pairOfWord (word : List Char) : Nat × List Char :=
  let (code, plain) := word.span (· ≠ '=')
  (hexNumber code, plain.drop 1)

/-- The other characters whose plain form is made of small letters. -/
def letterGroups : List (Nat × List Char) :=
  (words
    "aa=a ba=o 133=ij 17f=s 1c9=lj 1cc=nj 1f3=dz 2b0=h 2b2=j 2b3=r 2b7=w 2b8=y 2e1=l 2e2=s 2e3=x
    1d43=a 1d47=b 1d48=d 1d49=e 1d4d=g 1d4f=k 1d50=m 1d52=o 1d56=p 1d57=t 1d58=u 1d5b=v 1d62=i
    1d63=r 1d64=u 1d65=v 1d9c=c 1da0=f 1dbb=z 2071=i 207f=n 2090=a 2091=e 2092=o 2093=x 2095=h
    209a=p 209b=s 209c=t 210a=g 210e=h 2113=l 212f=e 2134=o 2139=i 2146=d 2147=e 2148=i 2149=j
    2170=i 2171=ii 2172=iii 2173=iv 2174=v 2175=vi 2176=vii 2177=viii 2178=ix 2179=x 217a=xi
    217b=xii 217c=l 217d=c 217e=d 217f=m 2c7c=j 32cd=erg 3372=da 3374=bar 3376=pc 3377=dm 3388=cal
    3389=kcal 338e=mg 338f=kg 3396=ml 3397=dl 3398=kl 3399=fm 339a=nm 339c=mm 339d=cm 339e=km
    33ad=rad 33b0=ps 33b1=ns 33b3=ms 33c4=cc 33c5=cd 33ca=ha 33cc=in 33cf=kt 33d0=lm 33d1=ln
    33d2=log 33d3=lx 33d4=mb 33d5=mil 33d6=mol 33db=sr 33ff=gal fb00=ff fb01=fi fb02=fl fb03=ffi
    fb04=ffl fb05=st fb06=st 107a5=q 1d4bb=f").map
    fun word => pairOfWord word.toList

/-- The plain form of a small letter; any other character is its own. -/
def plainForm (c : Char) : List Char :=
  if c.toNat < 0x80 then [c]
  else
    match letterRuns.find? fun r => r.first ≤ c.toNat && c.toNat ≤ r.last with
    | some r => [Char.ofNat (r.letter.toNat + (c.toNat - r.first))]
    | none =>
      match letterGroups.find? fun g => g.1 = c.toNat with
      | some (_, plain) => plain
      | none => [c]

/-- A text with its small letters in plain form. -/
def plain (s : String) : String := String.ofList (s.toList.flatMap plainForm)

end Rollout.Text
