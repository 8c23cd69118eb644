namespace BucketPlan

/-- The full address of a bucket given by its name or by its address. -/
def bucketAddress (bucket : String) : String :=
  if "arn:".toList.isPrefixOf bucket.toList then bucket else "arn:aws:s3:::" ++ bucket

end BucketPlan
