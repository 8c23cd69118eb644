import BucketPlan.Proofs.Recovery.Plain
import BucketPlan.Settings.Encryption
import BucketPlan.Settings.ObjectLock
import BucketPlan.Settings.PublicAccess
import BucketPlan.Website.Cors
import BucketPlan.Website.Rule

namespace BucketPlan

open Shape

namespace Retention

instance : shape.Admits Retention where
  fits r := .record rfl <| .member (fits r.days) <| .member (fits r.years) <|
    .member (fits r.mode) .noMore

instance : Recovers (Value.record? ofValue) :=
  Value.recovers_record (fun _ => rfl) fun r =>
    calc ofValue (plain r)
        = ⟨(plain r.days).int?, (plain r.years).int?, (plain r.mode).text?⟩ := rfl
      _ = r := by simp

end Retention

namespace ObjectLock

instance : shape.Admits ObjectLock where
  fits lock := .record rfl <| .member (fits lock.token) <| .member (fits lock.retention) .noMore

instance : Recovers (Value.record? ofValue) :=
  Value.recovers_record (fun _ => rfl) fun lock =>
    calc ofValue (plain lock)
        = ⟨(plain lock.token).text?, (plain lock.retention).record? Retention.ofValue⟩ := rfl
      _ = lock := by simp

end ObjectLock

namespace Encryption

instance : shape.Admits Encryption where
  fits e := .record rfl <| .member (fits e.algorithm) <| .member (fits e.masterKey) <|
    .member (fits e.bucketKey) .noMore

instance : Recovers (Value.record? ofValue) :=
  Value.recovers_record (fun _ => rfl) fun e =>
    calc ofValue (plain e)
        = ⟨(plain e.algorithm).text?, (plain e.masterKey).text?, (plain e.bucketKey).bool?⟩ := rfl
      _ = e := by simp

end Encryption

namespace PublicAccess

instance : shape.Admits PublicAccess where
  fits p := .record rfl <| .member (fits p.blockAcls) <| .member (fits p.blockPolicy) <|
    .member (fits p.ignoreAcls) <| .member (fits p.restrictBuckets) .noMore

instance : Recovers (Value.record? ofValue) :=
  Value.recovers_record (fun _ => rfl) fun p =>
    calc ofValue (plain p)
        = ⟨(plain p.blockAcls).bool?, (plain p.blockPolicy).bool?, (plain p.ignoreAcls).bool?,
            (plain p.restrictBuckets).bool?⟩ := rfl
      _ = p := by simp

end PublicAccess

namespace CorsRule

instance : shape.Admits CorsRule where
  fits r := .record rfl <| .member (fits r.methods) <| .member (fits r.origins) <|
    .member (fits r.headers) <| .member (fits r.exposed) <| .member (fits r.maxAge) <|
    .member (fits r.id) .noMore

instance : Recovers (Value.record? ofValue) :=
  Value.recovers_record (fun _ => rfl) fun r =>
    calc ofValue (plain r)
        = ⟨(plain r.methods).texts, (plain r.origins).texts, (plain r.headers).texts,
            (plain r.exposed).texts, (plain r.maxAge).int?, (plain r.id).text?⟩ := rfl
      _ = r := by simp

end CorsRule

namespace Redirect

instance : shape.Admits Redirect where
  fits r := .record rfl <| .member (fits r.host) <| .member (fits r.protocol) .noMore

instance : Recovers (Value.record? ofValue) :=
  Value.recovers_record (fun _ => rfl) fun r =>
    calc ofValue (plain r) = ⟨(plain r.host).text?, (plain r.protocol).text?⟩ := rfl
      _ = r := by simp

end Redirect

namespace RoutingRule

instance : shape.Admits RoutingRule where
  fits r := .record rfl <| .member (fits r.whenPrefix) <| .member (fits r.whenErrorCode) <|
    .member (fits r.host) <| .member (fits r.protocol) <| .member (fits r.httpCode) <|
    .member (fits r.replacePrefix) <| .member (fits r.replaceKey) .noMore

instance : Recovers (Value.record? ofValue) :=
  Value.recovers_record (fun _ => rfl) fun r =>
    calc ofValue (plain r)
        = ⟨(plain r.whenPrefix).text?, (plain r.whenErrorCode).text?, (plain r.host).text?,
            (plain r.protocol).text?, (plain r.httpCode).text?, (plain r.replacePrefix).text?,
            (plain r.replaceKey).text?⟩ := rfl
      _ = r := by simp

end RoutingRule

namespace StaticSite

instance : shape.Admits StaticSite where
  fits s := .record rfl <| .member (fits s.indexDocument) <| .member (fits s.errorDocument) <|
    .member (fits s.routingRules) .noMore

instance : Recovers (Value.record? ofValue) :=
  Value.recovers_record (fun _ => rfl) fun s =>
    calc ofValue (plain s)
        = ⟨(plain s.indexDocument).text?, (plain s.errorDocument).text?,
            (plain s.routingRules).records RoutingRule.ofValue⟩ := rfl
      _ = s := by simp

end StaticSite

namespace Website

instance : shape.Admits Website where
  fits w := .record rfl <| .member (fits w.redirect) <| .member (fits w.static) .noMore

instance : Recovers (Value.record? ofValue) :=
  Value.recovers_record (fun _ => rfl) fun w =>
    calc ofValue (plain w)
        = ⟨(plain w.redirect).record? Redirect.ofValue,
            (plain w.static).record? StaticSite.ofValue⟩ := rfl
      _ = w := by simp

end Website

end BucketPlan
