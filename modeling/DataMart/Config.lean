import DataMart.Pipeline
import DataMart.Query.Plan
import DataMart.Toml.Document

/-!
# Configuration

A `Config` says where sales come from, where the mart lies and how it is built and queried. It is put
together from `Setting`s, whichever way they arrive: from a program, from the lines of a
configuration file or from a command line. A configuration that gets through has a chunk size and a
default limit above zero.
-/

namespace DataMart

/-- Where sales come from, where the mart lies, and how it is built and queried. -/
structure Config where
  databaseUrl : Option String := none
  martPath : String := "analytics.db"
  /-- The number of rows of a batch. -/
  chunk : Nat := Pipeline.defaultChunk
  layout : Layout := .split
  /-- The limit of a request that sets none. -/
  defaultLimit : Nat := DataMart.defaultLimit
  /-- The highest sale id taken, for sampled builds. -/
  maxSaleId : Option Int := none
  payment : PaymentPolicy := .firstFound
  productless : ProductlessSales := .drop
  deriving DecidableEq, Repr

/-- One thing that a configuration says. -/
inductive Setting where
  | database (url : String)
  | mart (path : String)
  | chunk (rows : Nat)
  | layout (l : Layout)
  | defaultLimit (n : Nat)
  | maxSaleId (n : Int)
  | payment (p : PaymentPolicy)
  | productless (p : ProductlessSales)
  deriving DecidableEq, Repr

namespace Config

/-- The configuration after one more setting. -/
def set (c : Config) : Setting → Config
  | .database url => { c with databaseUrl := some url }
  | .mart path => { c with martPath := path }
  | .chunk rows => { c with chunk := rows }
  | .layout l => { c with layout := l }
  | .defaultLimit n => { c with defaultLimit := n }
  | .maxSaleId n => { c with maxSaleId := some n }
  | .payment p => { c with payment := p }
  | .productless p => { c with productless := p }

/-- The configuration after some more settings, in order. -/
def setAll (c : Config) (settings : List Setting) : Config := settings.foldl set c

/-- A configuration that can be used; what makes it useless is reported. -/
def validate (c : Config) : Except Fault Config :=
  if c.chunk = 0 then .error zeroChunk
  else if c.defaultLimit = 0 then .error (.config "default_limit must be greater than zero")
  else .ok c

/-- The usable configuration that settings make of the defaults. -/
def ofSettings (settings : List Setting) : Except Fault Config :=
  (setAll {} settings).validate

/-- The choices for the flattening queries. -/
def flattenPolicy (c : Config) : FlattenPolicy where
  payment := c.payment
  productless := c.productless
  maxSaleId := c.maxSaleId

/-! ## Configuration files -/

/-- Why a file gives no configuration. -/
inductive Problem where
  /-- It is no document at all. -/
  | document (p : Toml.Problem)
  /-- A key is not one of ours. -/
  | unknownKey (key : String)
  /-- A key has a value that it cannot have. -/
  | badValue (key : String)
  /-- It says what cannot be used, or it cannot be read. -/
  | fault (f : Fault)
  deriving DecidableEq, Repr

/-- The fault that a problem amounts to. -/
def Problem.toFault : Problem → Fault
  | document .malformed => .config "not a TOML document"
  | document (.redefined name) => .config ("'" ++ name ++ "' is defined twice")
  | unknownKey key => .config ("unknown key '" ++ key ++ "'")
  | badValue key => .config ("'" ++ key ++ "' cannot have this value")
  | fault f => f

/-- The choice that a value names: a text, or a table with nothing but an empty table or list under
that name. -/
def choice? : Toml → Option String
  | .text name => some name
  | .table _ [(name, .table _ [])] => some name
  | .table _ [(name, .list [])] => some name
  | _ => none

/-- The text of a value. -/
def text? : Toml → Option String
  | .text s => some s
  | _ => none

/-- The whole number of a value. -/
def int? : Toml → Option Int
  | .int n => some n
  | _ => none

/-- The count of a value; counts are not negative. -/
def count? (v : Toml) : Option Nat := (int? v).bind fun n => if 0 ≤ n then some n.toNat else none

/-- The layout that a file names. -/
def layout? : String → Option Layout
  | "flat" => some .flat
  | "split" => some .split
  | _ => none

/-- The payment policy that a file names. -/
def payment? : String → Option PaymentPolicy
  | "first_found" => some .firstFound
  | "lowest_payment_id" => some .lowestPaymentId
  | _ => none

/-- The policy on sales without products that a file names. -/
def productless? : String → Option ProductlessSales
  | "drop" => some .drop
  | "keep" => some .keep
  | _ => none

/-- The setting that a line of a file makes. -/
def setting (key : String) (v : Toml) : Except Problem Setting :=
  let asked (s : Option Setting) : Except Problem Setting :=
    match s with
    | some s => .ok s
    | none => .error (.badValue key)
  match key with
  | "database_url" => asked ((text? v).map .database)
  | "mart_path" => asked ((text? v).map .mart)
  | "chunk_size" => asked ((count? v).map .chunk)
  | "layout" => asked (((choice? v).bind layout?).map .layout)
  | "default_limit" => asked ((count? v).map .defaultLimit)
  | "max_sale_id" => asked ((int? v).map .maxSaleId)
  | "payment_policy" => asked (((choice? v).bind payment?).map .payment)
  | "productless_sales" => asked (((choice? v).bind productless?).map .productless)
  | _ => .error (.unknownKey key)

/-- The settings that the text of a file makes. -/
def settings (text : String) : Except Problem (List Setting) :=
  match Toml.parse text with
  | .error e => .error (.document e)
  | .ok members => members.mapM fun m => setting m.1 m.2

/-- The usable configuration that the text of a file makes. -/
def ofText (text : String) : Except Problem Config :=
  match settings text with
  | .error e => .error e
  | .ok ss => (ofSettings ss).mapError .fault

/-- The configuration of the file under a path. -/
def ofFile (files : Files) (path : String) : Except Problem Config :=
  match files.readText path with
  | .error e => .error (.fault (.config (path ++ ": " ++ e.message)))
  | .ok text => ofText text

/-- The configuration of the file that is asked for, else of the one that is looked for without
asking, if it is there, else the defaults. -/
def load (files : Files) (asked standard : Option String) : Except Problem Config :=
  match asked, standard with
  | some path, _ => ofFile files path
  | none, some path => if files.pathExists path then ofFile files path else .ok {}
  | none, none => .ok {}

/-- Validating leaves a configuration as it is, and accepts exactly those without a zero. -/
theorem validate_eq_ok_iff (c d : Config) :
    c.validate = .ok d ↔ c = d ∧ 0 < c.chunk ∧ 0 < c.defaultLimit := by
  unfold validate
  split
  · simp; omega
  · split
    · simp; omega
    · simp only [Except.ok.injEq]
      exact ⟨fun h => ⟨h, by omega, by omega⟩, fun h => h.1⟩

end Config

end DataMart
