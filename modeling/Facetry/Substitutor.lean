/-
# Substitution of classes

Some classes stand for another one: a generated proxy for its superclass, and
the body of a constant for its enumeration. Others are never introspected. A
substitutor follows a name to the class that is meant, or finds none; an array
stands for the array of what its component stands for.

A proxy is known by its name, which a pattern finds, or by an interface. A
walk from class to superclass ends after 32 steps at the latest, which also
ends the walks in a circle.

Key definitions: `Substitutor`, `Substitutor.isProxy`, `Substitutor.resolve`,
`Substitutor.substitute`.
-/
import Facetry.Configuration
import Facetry.Pattern.Reader
import Facetry.Repository

namespace Facetry

/-- What a substitutor skips, and what it takes for a proxy. -/
structure Substitutor where
  skipped : List String
  proxyPatterns : List Pattern
  proxyInterfaces : List String

namespace Substitutor

/-- Base classes of a framework, which are no domain classes. -/
def frameworkClasses : List String :=
  ["org.apache.isis.applib.AbstractContainedObject",
   "org.apache.isis.applib.AbstractDomainObject",
   "org.apache.isis.applib.AbstractService",
   "org.apache.isis.applib.AbstractViewModel"]

/-- The texts that mark the names of generated proxies. -/
def proxyMarks : List String :=
  ["$$EnhancerByCGLIB$$", "_$$_javassist", "$HibernateProxy$", "$ByteBuddy$"]

/-- The interfaces of generated proxies. -/
def proxyMarkerInterfaces : List String :=
  ["javassist.util.proxy.ProxyObject", "net.sf.cglib.proxy.Factory",
   "org.hibernate.proxy.HibernateProxy"]

/-- The pattern that matches exactly a text. -/
def exactly (text : String) : Pattern := .literal text.toList

/-- The substitutor that knows the framework's classes and the usual proxies. -/
def standard : Substitutor :=
  { skipped := frameworkClasses
    proxyPatterns := proxyMarks.map exactly
    proxyInterfaces := proxyMarkerInterfaces }

/-- The substitutor that also skips the classes which the configuration ignores. -/
def ofConfiguration (c : Configuration) : Substitutor :=
  { standard with skipped := standard.skipped ++ c.ignoredClasses }

/-- Also skips a class. -/
def withSkipped (s : Substitutor) (name : String) : Substitutor :=
  { s with skipped := s.skipped ++ [name] }

/-- Also takes classes whose name has a match of the pattern for proxies. -/
def withProxyPattern (s : Substitutor) (pattern : String) :
    Except Configuration.Error Substitutor :=
  match Pattern.read? pattern with
  | some p => .ok { s with proxyPatterns := s.proxyPatterns ++ [p] }
  | none => .error (.badProxyPattern pattern)

/-- Also takes classes with the interface for proxies. -/
def withProxyInterface (s : Substitutor) (interface : String) : Substitutor :=
  { s with proxyInterfaces := s.proxyInterfaces ++ [interface] }

/-- Whether the class is never introspected. -/
def isSkipped (s : Substitutor) (name : String) : Bool := s.skipped.contains name

/-- Whether the class is a proxy of its superclass. -/
def isProxy (s : Substitutor) (c : Class) : Bool :=
  s.proxyPatterns.any (fun p => p.matchesIn c.name) || c.interfaces.any s.proxyInterfaces.contains

/-- Whether the class stands for its superclass: a constant's body below its enumeration, or a
proxy. -/
def standsForSuperclass (s : Substitutor) (r : Repository) (c : Class) (superclass : String) :
    Bool :=
  (c.kind != .enum && r.isEnum superclass) || s.isProxy c

/-- The largest number of steps in a walk. -/
def maxSteps : Nat := 32

/-- The name of the class that `name` stands for, found within `steps` steps. -/
def resolve (s : Substitutor) (r : Repository) : Nat → String → Option String
  | 0, name => if s.isSkipped name then none else some name
  | steps + 1, name =>
    if s.isSkipped name then none
    else
      match TypeRef.componentName? name with
      | some component => (resolve s r steps component).map (· ++ "[]")
      | none =>
        match r.get? name with
        | none => some name
        | some c =>
          match c.superclass with
          | none => some name
          | some superclass =>
            if s.standsForSuperclass r c superclass then resolve s r steps superclass
            else some name

/-- The name of the class that `name` stands for; none if it is skipped. -/
def substitute (s : Substitutor) (r : Repository) (name : String) : Option String :=
  s.resolve r maxSteps name

end Substitutor
end Facetry
