namespace OvalCatalog

inductive Family where
  | redhat
  | debian
  | oracle
  | opensuse
  | opensuseLeap
  | suseServer
  | suseDesktop
  | suseCloud
  deriving DecidableEq, Repr

namespace Family

def all : List Family :=
  [redhat, debian, oracle, opensuse, opensuseLeap, suseServer, suseDesktop, suseCloud]

def name : Family → String
  | redhat => "redhat"
  | debian => "debian"
  | oracle => "oracle"
  | opensuse => "opensuse"
  | opensuseLeap => "opensuse.leap"
  | suseServer => "suse.linux.enterprise.server"
  | suseDesktop => "suse.linux.enterprise.desktop"
  | suseCloud => "suse.openstack.cloud"

def ofName? (s : String) : Option Family :=
  all.find? fun f => f.name == s

inductive Vendor where
  | redhat
  | debian
  | oracle
  | suse
  deriving DecidableEq, Repr

def vendor : Family → Vendor
  | redhat => .redhat
  | debian => .debian
  | oracle => .oracle
  | _ => .suse

def codename? : String → Option String
  | "7" => some "wheezy"
  | "8" => some "jessie"
  | "9" => some "stretch"
  | "10" => some "buster"
  | "11" => some "bullseye"
  | "12" => some "bookworm"
  | "13" => some "trixie"
  | _ => none

end Family

end OvalCatalog
